/-! # Passwords

What people choose as passwords, the most common ones first.
-/

namespace SessionTokens.Password.Wordlist

/-- Passwords in lower case. -/
def passwords : List String := [
  "password", "123456", "12345678", "1234", "qwerty", "12345", "dragon", "baseball", "football",
  "letmein", "monkey", "696969", "abc123", "mustang", "michael", "shadow", "master", "jennifer",
  "111111", "2000", "jordan", "superman", "harley", "1234567", "hunter", "trustno1", "ranger",
  "buster", "thomas", "tigger", "robert", "soccer", "batman", "test", "pass", "killer", "hockey",
  "george", "charlie", "andrew", "michelle", "love", "sunshine", "jessica", "6969", "pepper",
  "daniel", "access", "123456789", "654321", "joshua", "maggie", "starwars", "silver", "william",
  "dallas", "yankees", "123123", "ashley", "666666", "hello", "amanda", "orange", "freedom",
  "computer", "thunder", "nicole", "ginger", "heather", "hammer", "summer", "corvette", "taylor",
  "austin", "1111", "merlin", "matthew", "121212", "golfer", "cheese", "princess", "martin",
  "chelsea", "patrick", "richard", "diamond", "yellow", "bigdog", "secret", "asdfgh", "sparky",
  "cowboy", "camaro", "anthony", "matrix", "falcon", "iloveyou", "bailey", "guitar", "jackson",
  "purple", "scooter", "phoenix", "aaaaaa", "morgan", "tigers", "porsche", "mickey", "maverick",
  "cookie", "nascar", "peanut", "justin", "131313", "money", "samantha", "steelers", "joseph",
  "snoopy", "boomer", "whatever", "iceman", "smokey", "gateway", "dakota", "cowboys", "eagles",
  "chicken", "black", "zxcvbn", "please", "andrea", "ferrari", "knight", "melissa", "compaq",
  "coffee", "johnny", "bulldog", "xxxxxx", "welcome", "james", "player", "ncc1701", "wizard",
  "scooby", "charles", "junior", "internet", "mike", "brandy", "tennis", "banana", "monster",
  "spider", "lakers", "miller", "rabbit", "enter", "mercedes", "brandon", "steven", "fender",
  "john", "yamaha", "diablo", "chris", "boston", "tiger", "marine", "chicago", "rangers",
  "gandalf", "winter", "barney", "edward", "raiders", "badboy", "spanky", "bigdaddy", "johnson",
  "chester", "london", "midnight", "blue", "fishing", "000000", "hannah", "slayer", "11111111",
  "rachel", "redsox", "thx1138", "asdf", "marlboro", "panther", "zxcvbnm", "arsenal", "oliver",
  "qazwsx", "mother", "victoria", "7777777", "jasper", "angel", "david", "winner", "crystal",
  "golden", "viking", "jack", "shannon", "murphy", "angels", "prince", "cameron", "girls",
  "madison", "wilson", "carlos", "willie", "startrek", "captain", "maddog", "jasmine", "butter",
  "angela", "golf", "lauren", "rocket", "tiffany", "dennis", "liverpool", "flower", "forever",
  "green", "jackie", "muffin", "turtle", "sophie", "danielle", "redskins", "toyota", "jason",
  "sierra", "winston", "debbie", "giants", "packers", "newyork", "jeremy", "casper", "bubba",
  "112233", "sandra", "lovers", "mountain", "united", "cooper", "driver", "tucker", "helpme",
  "lucky", "maxwell", "8675309", "bear", "gators", "5150", "222222", "jaguar", "monica", "fred",
  "happy", "hotdog", "gemini", "lover", "xxxxxxxx", "777777", "canada", "nathan", "victor",
  "florida", "88888888", "nicholas", "rosebud", "metallic", "doctor", "trouble", "success",
  "stupid", "tomcat", "warrior", "peaches", "apples", "fish", "qwertyui", "magic", "buddy",
  "dolphins", "rainbow", "gunner", "987654", "freddy", "alexis", "braves", "2112", "1212",
  "cocacola", "xavier", "dolphin", "testing", "bond007", "member", "calvin", "voodoo", "7777",
  "samson", "alex", "apollo", "fire", "tester", "walter", "beavis", "voyager", "peter", "bonnie",
  "rush2112", "beer", "apple", "scorpio", "jonathan", "skippy", "sydney", "scott", "red123",
  "power", "gordon", "travis", "beaver", "star", "flyers", "232323", "zzzzzz", "steve", "rebecca",
  "scorpion", "doggie", "legend", "yankee", "blazer", "bill", "runner", "birdie", "555555",
  "parker", "topgun", "asdfasdf", "heaven", "viper", "animal", "2222", "bigboy", "4444", "arthur",
  "baby", "private", "godzilla", "donald", "williams", "phantom", "dave", "rock", "august",
  "sammy", "cool", "brian", "platinum", "jake", "bronco", "paul", "mark", "frank", "copper",
  "billy", "garfield", "willow", "little", "carter", "albert", "69696969", "kitten", "super",
  "jordan23", "eagle1", "shelby", "america", "11111", "jessie", "house", "free", "123321",
  "chevy", "white", "broncos", "surfer", "nissan", "999999", "saturn", "airborne", "elephant",
  "marvin", "action", "adidas", "qwert", "kevin", "1313", "explorer", "walker", "police",
  "christin", "december", "benjamin", "wolf", "sweet", "king", "online", "brooklyn", "teresa",
  "cricket", "sharon", "dexter", "racing", "gregory", "0000", "teens", "redwings", "dreams",
  "michigan", "magnum", "87654321", "nothing", "donkey", "trinity", "digital", "333333", "stella",
  "cartman", "guinness", "123abc", "speedy", "buffalo", "kitty", "pookie", "einstein", "kelly",
  "nelson", "nirvana", "vampire", "playboy", "louise", "pumpkin", "snowball", "test123", "sucker",
  "mexico", "beatles", "fantasy", "celtic", "cherry", "cassie", "888888", "sniper", "genesis",
  "hotrod", "reddog", "alexande", "college", "jester", "passw0rd", "1q2w3e4r", "qwerty123",
  "password1", "password123", "admin", "administrator", "root", "login", "letmein1", "passwd",
  "admin123", "root123", "changeme", "default", "guest", "user", "qwertyuiop", "1234567890",
  "0987654321", "987654321", "1q2w3e", "1q2w3e4r5t", "zaq12wsx", "qazwsxedc", "zxcvbnm123",
  "asdfghjkl", "asdfgh123", "monkey1", "dragon1", "sunshine1", "football1", "baseball1",
  "princess1", "welcome1", "abcdef", "abcd1234", "a1b2c3d4", "a1b2c3", "iloveyou1", "lovely",
  "loveme", "babygirl", "michael1", "jordan1", "superstar", "batman1", "spiderman", "pokemon",
  "naruto", "minecraft", "fortnite", "google", "facebook", "samsung", "iphone", "apple123",
  "starwars1", "blink182", "rockyou", "loulou", "nicole1", "jesus", "christ", "bible", "god",
  "family", "friends", "forever1", "hello123", "secret123", "master1", "shadow1", "killer1",
  "pass123", "test1234", "qwe123", "qweasd", "qweasdzxc", "123qwe", "1qaz2wsx", "147258369",
  "159753", "741852963", "789456123", "123654", "102030", "101010", "121314", "112358", "trustme",
  "letme", "correct", "horse", "battery", "staple", "monday", "tuesday", "wednesday", "thursday",
  "friday", "saturday", "sunday", "january", "february", "march", "april", "june", "july",
  "september", "october", "november", "spring", "autumn", "fall", "season", "summertime",
  "password2", "password12", "passphrase", "passcode", "mypassword", "yourpassword",
  "thepassword", "security", "server", "database", "system", "oracle", "mysql", "linux",
  "windows", "ubuntu", "network", "manager", "support", "service", "demo", "sample", "example",
  "temp", "temporary", "company", "office", "work", "home", "garden", "kitchen", "school",
  "teacher", "student", "children", "brother", "sister", "father", "daddy", "mommy", "mama",
  "papa", "husband", "wife", "darling", "honey", "sweetie", "sugar", "candy", "chocolate",
  "strawberry", "cupcake", "butterfly", "beautiful", "gorgeous", "handsome", "awesome",
  "fantastic", "wonderful", "excellent", "perfect", "amazing", "incredible", "champion",
  "victory", "hero", "legendary", "ninja", "samurai", "pirate", "knight1", "dragonfly", "unicorn",
  "phoenix1", "eagle", "hawk", "lion", "panda", "koala", "zebra", "giraffe", "penguin",
  "dolphin1", "whale", "shark", "snake", "lizard", "spider1", "cat", "dog", "puppy", "kitty1",
  "bunny", "horse1", "pony", "sheep", "cow", "pig", "duck", "goose", "bird", "robin", "raven",
  "sparrow", "swan", "red", "pink", "gray", "brown", "violet", "indigo", "one", "two", "three",
  "four", "five", "six", "seven", "eight", "nine", "ten", "hundred", "thousand", "million",
  "billion", "first", "second", "third", "last", "next", "best", "good", "great", "bad", "evil",
  "dark", "light", "day", "night", "morning", "evening", "sun", "moon", "stars", "sky", "cloud",
  "rain", "snow", "storm", "wind", "water", "earth", "stone", "metal", "gold", "iron", "steel",
  "wood", "tree", "forest", "river", "ocean", "beach", "island", "desert", "world", "country",
  "city", "street", "road", "bridge", "castle", "tower", "palace", "church", "temple", "music",
  "song", "dance", "party", "movie", "game", "games", "gamer", "play", "player1", "team", "coach",
  "club", "sport", "running", "walking", "swimming", "racing1", "skating", "skiing", "surfing",
  "boxing", "wrestling", "karate", "judo", "chess", "poker", "casino", "vegas", "paris", "berlin",
  "madrid", "rome", "tokyo", "moscow", "sydney1", "toronto", "texas", "california", "alaska",
  "hawaii", "nevada", "jersey", "mary", "patricia", "linda", "barbara", "elizabeth", "susan",
  "sarah", "karen", "nancy", "lisa", "betty", "margaret", "dorothy", "kimberly", "emily", "donna",
  "carol", "amanda1", "deborah", "stephanie", "laura", "cynthia", "kathleen", "amy", "anna",
  "brenda", "pamela", "emma", "katherine", "christine", "samantha1", "catherine", "virginia",
  "ruth", "diane", "joyce", "alice", "julie", "heather1", "evelyn", "judith", "megan", "cheryl",
  "andrea1", "martha", "frances", "gloria", "ann", "kathryn", "sara", "janice", "jean", "abigail",
  "alexander", "timothy", "jeffrey", "ryan", "jacob", "gary", "eric", "stephen", "larry",
  "justin1", "samuel", "raymond", "patrick1", "dennis1", "jerry", "tyler", "aaron", "jose",
  "adam", "henry", "douglas", "zachary", "kyle", "noah", "ethan", "jeremy1", "keith", "roger",
  "terry", "harold", "sean", "christian", "gerald", "jesse", "austin1", "bryan", "bruce", "ralph",
  "roy", "eugene", "louis", "philip", "bobby", "smith", "jones", "brown1", "davis", "garcia",
  "rodriguez", "martinez", "hernandez", "lopez", "gonzalez", "anderson", "moore", "lee", "perez",
  "thompson", "harris", "sanchez", "clark", "ramirez", "lewis", "robinson", "young", "allen",
  "wright", "torres", "nguyen", "hill", "flores", "adams", "baker", "hall", "rivera", "campbell",
  "mitchell", "roberts"]

end SessionTokens.Password.Wordlist
