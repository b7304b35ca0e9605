/-! # Plain words

Words of everyday language, and long words that are well known.
-/

namespace SessionTokens.Password.Wordlist

/-- Words in lower case. -/
def plain : List String := [
  "the", "and", "you", "that", "was", "for", "are", "with", "his", "they", "this", "have", "from",
  "had", "not", "but", "what", "all", "were", "when", "your", "can", "said", "there", "use",
  "each", "which", "she", "how", "their", "will", "other", "about", "out", "many", "then", "them",
  "these", "some", "her", "would", "make", "like", "him", "into", "time", "has", "look", "more",
  "write", "see", "number", "way", "could", "people", "than", "been", "call", "who", "its", "now",
  "find", "down", "did", "get", "come", "made", "may", "part", "over", "new", "sound", "take",
  "only", "know", "place", "year", "live", "back", "give", "most", "very", "after", "thing",
  "our", "just", "name", "sentence", "man", "think", "say", "where", "help", "through", "much",
  "before", "line", "right", "too", "mean", "old", "any", "same", "tell", "boy", "follow", "came",
  "want", "show", "also", "around", "form", "small", "set", "put", "end", "does", "another",
  "well", "large", "must", "big", "even", "such", "because", "turn", "here", "why", "ask", "went",
  "men", "read", "need", "land", "different", "move", "try", "kind", "hand", "picture", "again",
  "change", "off", "spell", "air", "away", "point", "page", "letter", "answer", "found", "study",
  "still", "learn", "should", "high", "every", "near", "add", "food", "between", "own", "below",
  "plant", "keep", "never", "start", "eye", "thought", "head", "under", "story", "saw", "left",
  "dont", "few", "while", "along", "might", "close", "seem", "hard", "open", "begin", "life",
  "always", "those", "both", "paper", "together", "got", "group", "often", "run", "important",
  "until", "side", "feet", "car", "mile", "walk", "sea", "began", "grow", "took", "carry",
  "state", "once", "book", "hear", "stop", "without", "later", "miss", "idea", "enough", "eat",
  "face", "watch", "far", "really", "almost", "let", "above", "girl", "sometimes", "cut", "talk",
  "soon", "list", "being", "leave", "body", "color", "stand", "question", "area", "problem",
  "complete", "room", "knew", "since", "ever", "piece", "told", "usually", "friend", "easy",
  "heard", "order", "door", "sure", "become", "top", "ship", "across", "today", "during", "short",
  "better", "however", "low", "hour", "product", "happen", "whole", "measure", "early", "wave",
  "reach", "listen", "space", "cover", "fast", "several", "hold", "himself", "toward", "step",
  "vowel", "true", "against", "pattern", "numeral", "table", "north", "slow", "map", "farm",
  "pull", "draw", "voice", "seen", "cold", "cry", "plan", "notice", "south", "sing", "war",
  "ground", "town", "unit", "figure", "certain", "field", "travel", "upon", "done", "english",
  "half", "fly", "gave", "box", "finally", "wait", "quick", "person", "became", "shown", "minute",
  "strong", "verb", "front", "feel", "fact", "inch", "decide", "contain", "course", "surface",
  "produce", "building", "class", "note", "rest", "careful", "scientist", "inside", "wheel",
  "stay", "known", "week", "less", "machine", "base", "ago", "stood", "plane", "behind", "ran",
  "round", "boat", "force", "bring", "understand", "warm", "common", "explain", "dry", "though",
  "language", "shape", "deep", "yes", "clear", "equation", "yet", "government", "fill", "heat",
  "full", "hot", "check", "object", "bowl", "among", "noun", "cannot", "able", "size", "ball",
  "material", "special", "heavy", "fine", "pair", "circle", "include", "built", "cant", "matter",
  "square", "perhaps", "felt", "suddenly", "direction", "center", "farmer", "ready", "divide",
  "general", "energy", "subject", "europe", "region", "return", "believe", "pick", "simple",
  "cell", "paint", "mind", "cause", "exercise", "egg", "train", "wish", "drop", "develop",
  "window", "difference", "distance", "heart", "sit", "sum", "wall", "probably", "leg", "sat",
  "main", "wide", "written", "length", "reason", "kept", "interest", "arm", "race", "present",
  "store", "job", "edge", "past", "sign", "record", "finish", "discover", "wild", "beside",
  "gone", "glass", "lay", "weather", "instrument", "meet", "month", "paragraph", "raise",
  "represent", "soft", "whether", "clothes", "shall", "held", "describe", "drive", "cross",
  "speak", "solve", "appear", "son", "either", "ice", "sleep", "village", "factor", "result",
  "jump", "ride", "care", "floor", "push", "buy", "century", "outside", "tall", "already",
  "instead", "phrase", "soil", "bed", "copy", "case", "laugh", "nation", "quite", "type",
  "themselves", "temperature", "bright", "lead", "everyone", "method", "section", "lake",
  "within", "dictionary", "hair", "age", "amount", "scale", "pound", "although", "per", "broken",
  "moment", "tiny", "possible", "milk", "quiet", "natural", "lot", "act", "middle", "speed",
  "count", "someone", "sail", "roll", "wonder", "smile", "angle", "fraction", "africa", "kill",
  "melody", "bottom", "trip", "hole", "poor", "fight", "surprise", "french", "died", "beat",
  "exact", "remain", "dress", "lady", "dream", "devil", "demon", "ghost", "witch", "cobra",
  "gorilla", "doggy", "rooster", "turkey", "pigeon", "parrot", "blueberry", "raspberry", "lemon",
  "mango", "peach", "melon", "grape", "tomato", "potato", "carrot", "onion", "garlic", "bacon",
  "burger", "pizza", "pasta", "cake", "whiskey", "vodka", "tequila", "wine", "bottle", "sunset",
  "sunrise", "lightning", "hurricane", "tornado", "volcano", "earthquake", "planet", "galaxy",
  "universe", "cosmos", "shuttle", "spaceship", "airplane", "aircraft", "helicopter", "submarine",
  "battleship", "sailor", "soldier", "queen", "emperor", "hacker", "cracker", "cyber", "laptop",
  "desktop", "monitor", "printer", "scanner", "camera", "phone", "mobile", "android", "backup",
  "email", "basketball", "rugby", "volleyball", "cycling", "skateboard", "snowboard", "hunting",
  "camping", "hiking", "climbing", "piano", "violin", "drums", "bass", "singer", "hiphop",
  "rapper", "techno", "trance", "disco", "jazz", "blues", "reggae", "liberty", "justice", "glory",
  "honor", "shooter", "fighter", "boxer", "racer", "rider", "biker", "skater", "dancer", "writer",
  "artist", "nurse", "lawyer", "professor", "engineer", "boss", "director", "president",
  "minister", "senator", "colonel", "major", "sergeant", "officer", "sheriff", "detective",
  "agent", "spy", "strange", "normal", "unique", "random", "crazy", "silly", "funny", "pretty",
  "impossible", "invisible", "invincible", "immortal", "eternal", "infinity", "destiny",
  "fortune", "chance", "luck", "failure", "mistake", "solution", "riddle", "puzzle", "mystery",
  "treasure", "adventure", "journey", "voyage", "holiday", "vacation", "weekend", "birthday",
  "christmas", "easter", "halloween", "thanksgiving", "valentine", "wedding", "marriage",
  "daughter", "uncle", "auntie", "grandma", "grandpa", "mate", "partner", "sweetheart",
  "honeybee", "babe", "cutie", "international", "professional", "communication", "communications",
  "relationship", "understanding", "responsibility", "unfortunately", "extraordinary",
  "approximately", "encyclopedia", "photographer", "photography", "refrigerator", "veterinarian",
  "kindergarten", "independence", "intelligence", "construction", "entertainment",
  "advertisement", "characteristic", "investigation", "consciousness", "development",
  "environment", "organization", "opportunity", "conversation", "concentration", "considerable",
  "constitution", "contribution", "distribution", "imagination", "congratulations",
  "administration", "championship", "hippopotamus", "rhinoceros", "caterpillar", "butterflies",
  "electricity", "electronics", "mathematics", "philosophy", "psychology", "technology",
  "television", "newspaper", "grandmother", "grandfather", "neighborhood", "strawberries",
  "watermelon", "firefighter", "transportation", "revolution", "resurrection", "generation",
  "application", "information", "registration", "subscription", "description", "introduction",
  "presentation", "representative", "significance", "circumstances", "comprehensive",
  "constructive", "destruction", "discrimination", "discussion", "documentation", "establishment",
  "experience", "experimental", "explanation", "exploration", "expression", "headquarters",
  "identification", "implementation", "improvement", "individual", "infrastructure",
  "installation", "institution", "instructions", "interpretation", "laboratory", "manufacturer",
  "manufacturing", "measurement", "mediterranean", "membership", "neighborhoods", "nevertheless",
  "observation", "participation", "particularly", "performance", "perspective", "possibility",
  "preparation", "productivity", "pronunciation", "recommendation", "recommendations",
  "reconstruction", "reservation", "satisfaction", "specification", "straightforward",
  "superintendent", "supermarket", "traditional", "transformation", "transmission",
  "undergraduate", "underground", "vulnerability"]

end SessionTokens.Password.Wordlist
