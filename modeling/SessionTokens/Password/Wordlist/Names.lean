/-! # Names

Given names and family names, the most common ones first.
-/

namespace SessionTokens.Password.Wordlist

/-- Names in lower case. -/
def names : List String := [
  "christopher", "christina", "amber", "brittany", "erin", "jamie", "dustin", "erica", "kenneth",
  "lindsey", "kristen", "katie", "lindsay", "vanessa", "courtney", "alicia", "cody", "allison",
  "bradley", "shawn", "derek", "kristin", "chad", "jenna", "tara", "maria", "krystal", "jared",
  "holly", "marcus", "kristina", "natalie", "jacqueline", "corey", "juan", "cassandra", "meghan",
  "joel", "shane", "phillip", "brett", "ronald", "antonio", "stacy", "brandi", "nathaniel", "ian",
  "craig", "valerie", "veronica", "cory", "whitney", "derrick", "luis", "diana", "leslie",
  "caitlin", "leah", "natasha", "erika", "casey", "latoya", "erik", "dana", "brent", "dominique",
  "brittney", "evan", "gabriel", "julia", "candice", "melanie", "adrian", "stacey", "sheena",
  "wesley", "vincent", "alexandra", "katrina", "bethany", "nichole", "jeffery", "curtis",
  "carrie", "todd", "blake", "randy", "alison", "trevor", "seth", "kara", "joanna", "rachael",
  "luke", "felicia", "brooke", "candace", "alan", "tracy", "kayla", "tina", "krystle", "russell",
  "jeremiah", "carl", "miguel", "tony", "gina", "jillian", "renee", "denise", "molly", "misty",
  "mario", "johnathan", "jaclyn", "lacey", "shaun", "devin", "heidi", "troy", "lucas", "desiree",
  "jorge", "andre", "drew", "sabrina", "miranda", "alyssa", "alisha", "meagan", "krista", "marc",
  "tabitha", "lance", "ricardo", "chase", "theresa", "melinda", "monique", "tanya", "kristopher",
  "caleb", "ashlee", "kelli", "garrett", "mallory", "jill", "jonathon", "kristy", "anne",
  "francisco", "danny", "tamara", "manuel", "meredith", "colleen", "lawrence", "christy", "ricky",
  "randall", "marissa", "ross", "mathew", "jimmy", "kendra", "carolyn", "deanna", "jenny", "jon",
  "lori", "rebekah", "ebony", "wendy", "micheal", "kristi", "caroline", "colin", "dawn", "kari",
  "clayton", "roberto", "priscilla", "darren", "kelsey", "clinton", "isaac", "grant", "cristina",
  "tonya", "rodney", "bridget", "joe", "cindy", "oscar", "maurice", "jaime", "julian", "jay",
  "marie", "hector", "kate", "adrienne", "tasha", "michele", "ana", "stefanie", "cara",
  "alejandro", "ruben", "kurt", "geoffrey", "ernest", "elena", "claire", "valentina", "isabella",
  "sophia", "olivia", "gabriela", "camila", "daniela", "mariana", "natalia", "paola", "carolina",
  "fernanda", "alejandra", "andreas", "stefan", "sergey", "dmitry", "vladimir", "ivan", "alexey",
  "andrey", "mikhail", "nikita", "oleg", "igor", "roman", "maxim", "pavel", "denis", "anton",
  "artem", "svetlana", "tatiana", "olga", "irina", "ekaterina", "anastasia", "marina", "galina",
  "ludmila", "oksana", "yulia", "darya", "ksenia", "vera", "mohamed", "mohammed", "ahmed",
  "mustafa", "hassan", "hussein", "ibrahim", "abdullah", "fatima", "aisha", "ali", "omar",
  "khalid", "mehmet", "ayse", "emre", "murat", "giuseppe", "giovanni", "francesco", "alessandro",
  "lorenzo", "matteo", "marco", "luca", "chiara", "giulia", "francesca", "valentino", "roberta",
  "pierre", "francois", "michel", "philippe", "nicolas", "julien", "camille", "manon", "sylvie",
  "isabelle", "nathalie", "veronique", "dominik", "johannes", "juergen", "wolfgang", "matthias",
  "sebastian", "florian", "tobias", "martina", "sabine", "claudia", "petra", "birgit",
  "katharina", "franziska", "turner", "phillips", "evans", "edwards", "collins", "stewart",
  "morris", "rogers", "reed", "cook", "bell", "richardson", "cox", "howard", "ward", "peterson",
  "watson", "brooks", "sanders", "price", "bennett", "barnes", "henderson", "coleman", "jenkins",
  "perry", "powell", "long", "patterson", "hughes", "butler", "simmons", "foster", "gonzales",
  "bryant", "griffin", "diaz", "hayes", "myers", "ford", "hamilton", "graham", "sullivan",
  "wallace", "woods", "cole", "west", "owens", "reynolds", "fisher", "ellis", "harrison",
  "gibson", "mcdonald", "cruz", "marshall", "ortiz", "gomez", "murray", "freeman", "wells",
  "webb", "simpson", "stevens", "porter", "hicks", "crawford", "boyd", "mason", "morales",
  "kennedy", "warren", "dixon", "ramos", "burns", "shaw", "holmes", "rice", "robertson", "hunt",
  "daniels", "palmer", "mills", "ferguson", "rose", "hawkins", "dunn", "perkins", "hudson",
  "spencer", "gardner", "payne", "pierce", "berry", "matthews", "arnold", "wagner", "willis",
  "ray", "watkins", "olson", "carroll", "duncan", "snyder", "hart", "cunningham", "lane",
  "andrews", "ruiz", "harper", "fox", "riley", "armstrong", "carpenter", "weaver", "greene",
  "elliott", "chavez", "sims", "peters", "kelley", "franklin", "lawson"]

end SessionTokens.Password.Wordlist
