/-! # Phrases

What people put together when they have to choose more than a word: phrases, titles, the names
of bands, clubs and games, and rows of keys.
-/

namespace SessionTokens.Password.Wordlist

/-- Phrases in lower case. -/
def phrases : List String := [
  "1q2w3e4r5t6y", "qwertyuiopasdfghjklzxcvbnm", "qwertyuiopasdfghjkl", "qwerty12", "qwerty1234",
  "qwerty12345", "qwerty123456", "qwerty1", "asdf1234", "asdfg123", "zxcv1234", "abcd123",
  "abcde12345", "abc12345", "abc123456", "password1234", "password12345", "password123456",
  "password01", "password99", "password00", "passwort", "passwort1", "motdepasse", "contrasena",
  "parola", "parool", "mypass", "mypass123", "adminadmin", "admin1234", "admin12345",
  "admin123456", "rootroot", "toor", "toortoor", "testtest", "testing123", "test12345",
  "test123456", "guest123", "guest1234", "user123", "user1234", "welcome12", "welcome123",
  "welcome1234", "letmein12", "letmein123", "iloveyou12", "iloveyou123", "iloveyou2", "iloveu",
  "iluvu", "ihateyou", "pussycat", "loveyou", "loveyou1", "lovelove", "lovers1", "mylove",
  "mylove1", "truelove", "foreverlove", "loveforever", "lovehurts", "sweetlove",
  "iloveyouforever", "iloveyousomuch", "ilovemymom", "ilovemyself", "ilovejesus", "ilovegod",
  "ilovehim", "iloveher", "godislove", "godisgood", "jesuschrist", "jesusislord", "jesus1",
  "jesus123", "jesus777", "blessed", "blessed1", "faith", "hope", "peace", "peaceful", "grace",
  "angelica", "heaven1", "angel123", "angel1", "babyboy", "babyface", "babydoll", "babyblue",
  "baby123", "princesa", "princesita", "hermosa", "tequiero", "teamo", "teamomucho", "estrella",
  "corazon", "bonita", "mariposa", "chiquita", "amorcito", "amigos", "amistad", "futbol",
  "gfhjkm", "ghbdtn", "ghbdtndctv", "yfnfif", "cjkysirj", "vfrcbv", "rfnthbyf", "dfkthbq",
  "yfcntymrf", "vfvfgfgf", "cdtnkfyf", "dbrnjhbz", "qwertyu", "michaeljackson", "michaeljordan",
  "elvispresley", "bobmarley", "jimmorrison", "kurtcobain", "johnlennon", "thebeatles",
  "ledzeppelin", "pinkfloyd", "blacksabbath", "ironmaiden", "judaspriest", "systemofadown",
  "redhotchilipeppers", "rollingstones", "gunsnroses", "metallica", "linkinpark", "limpbizkit",
  "slipknot", "eminem", "greenday", "nickelback", "coldplay", "aerosmith", "scorpions",
  "depechemode", "britneyspears", "jenniferlopez", "avrillavigne", "christinaaguilera",
  "justintimberlake", "justinbieber", "selenagomez", "onedirection", "harrypotter",
  "lordoftherings", "starwars123", "startrek1", "thematrix", "batmanrobin", "spongebob",
  "spongebobsquarepants", "scoobydoo", "mickeymouse", "minniemouse", "donaldduck",
  "winniethepooh", "hellokitty", "powerrangers", "transformers", "teletubbies", "ninjaturtles",
  "southpark", "simpsons", "homersimpson", "bartsimpson", "familyguy", "powerpuff", "tinkerbell",
  "cinderella", "peterpan", "pinocchio", "finalfantasy", "finalfantasy7", "kingdomhearts",
  "legendofzelda", "supermario", "mariobros", "pokemon123", "pikachu", "digimon", "dragonball",
  "dragonballz", "yugioh", "onepiece", "sasuke1", "naruto123", "narutouzumaki", "worldofwarcraft",
  "warcraft", "warcraft3", "starcraft", "diablo2", "counterstrike", "counter-strike",
  "battlefield", "callofduty", "halo2", "halflife2", "halflife", "unrealtournament",
  "quake3arena", "grandtheftauto", "playstation", "playstation2", "playstation3", "nintendo",
  "nintendo64", "gameboy", "gamecube", "xbox360", "xboxlive", "leagueoflegends", "manchester",
  "manchesterunited", "manutd", "mufc1234", "liverpoolfc", "chelseafc", "arsenalfc", "realmadrid",
  "barcelona", "fcbarcelona", "juventus", "intermilan", "acmilan", "bayern", "borussia",
  "galatasaray", "fenerbahce", "besiktas", "corinthians", "flamengo", "palmeiras", "santos",
  "riverplate", "bocajuniors", "ronaldinho", "ronaldo", "cristianoronaldo", "messi10", "zidane",
  "beckham7", "maradona", "newcastle", "tottenham", "westham", "leedsunited", "evertonfc",
  "celticfc", "rangersfc", "dallascowboys", "newyorkyankees", "bostonredsox", "chicagobulls",
  "chicagocubs", "losangeles", "lalakers", "greenbay", "pittsburgh", "philadelphia",
  "philadelphiaeagles", "sanfrancisco", "sandiego", "sanantonio", "jacksonville", "indianapolis",
  "minneapolis", "minnesota", "massachusetts", "pennsylvania", "washington", "washingtondc",
  "northcarolina", "southcarolina", "newjersey", "newzealand", "newyorkcity", "newcastle1",
  "southafrica", "switzerland", "unitedkingdom", "unitedstates", "johannesburg", "constantinople",
  "mississippi", "tennessee", "louisiana", "connecticut", "oklahoma", "wisconsin", "colorado",
  "arkansas", "kentucky", "missouri", "amsterdam", "rotterdam", "barcelona1", "copenhagen",
  "stockholm", "helsinki", "budapest", "bucharest", "edinburgh", "birmingham", "nottingham",
  "harleydavidson", "volkswagen", "lamborghini", "mitsubishi", "mercedesbenz", "chevrolet",
  "landrover", "jaguar1", "hyundai", "suzuki", "kawasaki", "motorola", "blackberry", "microsoft",
  "macintosh", "hewlettpackard", "nokia6300", "sonyericsson", "panasonic", "toshiba", "youtube",
  "myspace", "jackdaniels", "johnnywalker", "budweiser", "heineken", "cocacola1", "mcdonalds",
  "marlboro1", "camelot", "guinness1", "captainmorgan", "stonecold", "stonecold316", "undertaker",
  "therock", "johncena", "wrestlemania", "hulkhogan", "tripleh", "hardyboyz", "reymysterio",
  "rockandroll", "rocknroll", "heavymetal", "punkrock", "guitarhero", "drummer1", "bassplayer",
  "keyboard", "saxophone", "trumpet", "trombone", "supercalifragilisticexpialidocious",
  "antidisestablishmentarianism", "abracadabra", "opensesame", "hocuspocus", "alakazam",
  "thunderbird", "thunderstruck", "thundercats", "bulletproof", "heartbreaker", "troublemaker",
  "peacemaker", "moneymaker", "playmaker", "skywalker", "lukeskywalker", "darthvader", "anakin",
  "obiwankenobi", "masteryoda", "stormtrooper", "chewbacca", "millenniumfalcon", "jamesbond",
  "jamesbond007", "nosferatu", "frankenstein", "dracula", "werewolf", "vampires1", "terminator",
  "predator", "robocop", "highlander", "gladiator", "braveheart", "internetexplorer", "photoshop",
  "wordpress", "javascript", "programmer", "developer", "computers", "webmaster", "postmaster",
  "sysadmin", "letmeinplease", "opensaysme", "nopassword", "password!", "whatsmyname",
  "whatthefuck", "whatthehell", "whocares", "whoknows", "nothing1", "something", "anything",
  "everything", "somebody", "nobody1", "anybody", "everybody", "dontforget", "forgetme",
  "forgotten", "remember", "rememberme", "idontknow", "31415926535", "27182818284", "1123581321",
  "5432112345", "1234554321", "123454321", "1234321", "12344321", "0123456789", "12345678910",
  "123456789a", "a123456789", "123456789q", "q123456789", "a12345678", "1234567890q", "123abc456",
  "abc123abc", "123456abc", "123qweasd", "123qweasdzxc", "qweasd123", "qwe123qwe", "1qaz1qaz",
  "1qazxsw2", "zaq1xsw2", "xsw21qaz", "zaq1zaq1", "zaqxswcde", "qazwsxedcrfv", "1qaz2wsx3edc",
  "1qaz2wsx3edc4rfv", "qwerasdfzxcv", "1234qwerasdf", "1234qwerasdfzxcv", "0okmnji9",
  "asdfghjkl;", "asdfghjkl1", "zxcvbnm1", "qwertyuiop1", "qwertyuiop123", "asdfghjkl123",
  "poiuytrewq", "lkjhgfdsa", "mnbvcxz", "mnbvcxz1", "111222333", "112233445566", "11223344556677",
  "1122334455", "123123123", "123321123", "147147147", "159159159", "159357", "159357456",
  "159753456", "147258", "147852369", "147896325", "258456", "321654987", "456789123", "753159",
  "753951", "789123456", "789654123", "852456", "963852741", "987321654", "0987654321a",
  "trustno1!", "thx11389", "ncc1701d", "ncc1701e", "ncc74656", "bond0007", "agent007", "r2d2c3po",
  "c3por2d2", "ou812", "ou8122", "5150vh", "u2u2u2", "g00gle", "h4x0r", "hax0r", "l33t",
  "leet1337", "n00b", "noob123", "w00t", "swordfish"]

end SessionTokens.Password.Wordlist
