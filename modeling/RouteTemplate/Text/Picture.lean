/-
Pictures by name.  A word between two colons, such as `:key:`, stands for a picture
where it is the name of one, and for itself otherwise.  The name may ask for the
picture to be drawn as text or in colours, as in `:key-text:`.
-/
import RouteTemplate.Text.Blank

namespace RouteTemplate
namespace Text

/-- The pictures with their names. -/
def pictures : List (String × String) :=
  [("+1", "👍"), ("-1", "👎"), ("100", "💯"), ("1234", "🔢"), ("8ball", "🎱"), ("a", "🅰"),
   ("ab", "🆎"), ("abc", "🔤"), ("abcd", "🔡"), ("accept", "🉑"), ("aerial_tramway", "🚡"),
   ("airplane", "✈"), ("alarm_clock", "⏰"), ("alien", "👽"), ("ambulance", "🚑"), ("anchor", "⚓"),
   ("angel", "👼"), ("anger", "💢"), ("angry", "😠"), ("anguished", "😧"), ("ant", "🐜"),
   ("apple", "🍎"), ("aquarius", "♒"), ("aries", "♈"), ("arrow_backward", "◀"),
   ("arrow_double_down", "⏬"), ("arrow_double_up", "⏫"), ("arrow_down", "⬇"),
   ("arrow_down_small", "🔽"), ("arrow_forward", "▶"), ("arrow_heading_down", "⤵"),
   ("arrow_heading_up", "⤴"), ("arrow_left", "⬅"), ("arrow_lower_left", "↙"),
   ("arrow_lower_right", "↘"), ("arrow_right", "➡"), ("arrow_right_hook", "↪"),
   ("arrow_up", "⬆"), ("arrow_up_down", "↕"), ("arrow_up_small", "🔼"), ("arrow_upper_left", "↖"),
   ("arrow_upper_right", "↗"), ("arrows_clockwise", "🔃"), ("arrows_counterclockwise", "🔄"),
   ("art", "🎨"), ("articulated_lorry", "🚛"), ("astonished", "😲"), ("athletic_shoe", "👟"),
   ("atm", "🏧"), ("b", "🅱"), ("baby", "👶"), ("baby_chick", "🐤"), ("baby_symbol", "🚼"),
   ("back", "🔙"), ("baggage_claim", "🛄"), ("balloon", "🎈"), ("bamboo", "🎍"), ("banana", "🍌"),
   ("bangbang", "‼"), ("bank", "🏦"), ("bar_chart", "📊"), ("barber", "💈"), ("baseball", "⚾"),
   ("basketball", "🏀"), ("bath", "🛀"), ("bathtub", "🛁"), ("battery", "🔋"), ("bear", "🐻"),
   ("bee", "🐝"), ("beer", "🍺"), ("beers", "🍻"), ("beginner", "🔰"), ("bell", "🔔"), ("bento", "🍱"),
   ("bicycle", "🚲"), ("bike", "🚲"), ("bikini", "👙"), ("bird", "🐦"), ("birthday", "🎂"),
   ("black_circle", "⚫"), ("black_joker", "🃏"), ("black_nib", "✒"), ("black_square_button", "🔲"),
   ("blossom", "🌼"), ("blowfish", "🐡"), ("blue_book", "📘"), ("blue_car", "🚙"),
   ("blue_heart", "💙"), ("blush", "😊"), ("boar", "🐗"), ("boat", "⛵"), ("bomb", "💣"),
   ("book", "📖"), ("bookmark", "🔖"), ("bookmark_tabs", "📑"), ("books", "📚"), ("boom", "💥"),
   ("boot", "👢"), ("bouquet", "💐"), ("bow", "🙇"), ("bowling", "🎳"), ("boy", "👦"), ("bread", "🍞"),
   ("bridge_at_night", "🌉"), ("briefcase", "💼"), ("broken_heart", "💔"), ("bug", "🐛"),
   ("bulb", "💡"), ("bus", "🚌"), ("busstop", "🚏"), ("bust_in_silhouette", "👤"),
   ("busts_in_silhouette", "👥"), ("butterfly", "🦋"), ("cactus", "🌵"), ("cake", "🍰"),
   ("calling", "📲"), ("camera", "📷"), ("cancer", "♋"), ("candy", "🍬"), ("capital_abcd", "🔠"),
   ("capricorn", "♑"), ("car", "🚗"), ("card_index", "📇"), ("carousel_horse", "🎠"), ("cd", "💿"),
   ("chart", "💹"), ("chart_with_downwards_trend", "📉"), ("chart_with_upwards_trend", "📈"),
   ("check_mark", "✔"), ("checkered_flag", "🏁"), ("cherries", "🍒"), ("cherry_blossom", "🌸"),
   ("chestnut", "🌰"), ("chicken", "🐔"), ("children_crossing", "🚸"), ("chocolate_bar", "🍫"),
   ("christmas_tree", "🎄"), ("church", "⛪"), ("cinema", "🎦"), ("circus_tent", "🎪"), ("cl", "🆑"),
   ("clap", "👏"), ("clapper", "🎬"), ("clipboard", "📋"), ("clock1", "🕐"), ("clock10", "🕙"),
   ("clock11", "🕚"), ("clock12", "🕛"), ("clock2", "🕑"), ("clock3", "🕒"), ("clock4", "🕓"),
   ("clock5", "🕔"), ("clock6", "🕕"), ("clock7", "🕖"), ("clock8", "🕗"), ("clock9", "🕘"),
   ("closed_book", "📕"), ("closed_lock_with_key", "🔐"), ("closed_umbrella", "🌂"), ("cloud", "☁"),
   ("clubs", "♣"), ("cn", "🇨🇳"), ("cocktail", "🍸"), ("coffee", "☕"), ("cold_sweat", "😰"),
   ("collision", "💥"), ("computer", "💻"), ("confetti_ball", "🎊"), ("confounded", "😖"),
   ("confused", "😕"), ("congratulations", "㊗"), ("construction", "🚧"),
   ("construction_worker", "👷"), ("convenience_store", "🏪"), ("cookie", "🍪"), ("cool", "🆒"),
   ("cop", "👮"), ("copyright", "©"), ("corn", "🌽"), ("couple", "👫"), ("crab", "🦀"),
   ("credit_card", "💳"), ("crescent_moon", "🌙"), ("crocodile", "🐊"), ("cross_mark", "❌"),
   ("crossed_flags", "🎌"), ("crown", "👑"), ("cry", "😢"), ("crystal_ball", "🔮"), ("cupid", "💘"),
   ("curly_loop", "➰"), ("currency_exchange", "💱"), ("curry", "🍛"), ("customs", "🛃"),
   ("cyclone", "🌀"), ("dancer", "💃"), ("dango", "🍡"), ("dart", "🎯"), ("dash", "💨"),
   ("date", "📅"), ("de", "🇩🇪"), ("deciduous_tree", "🌳"), ("department_store", "🏬"),
   ("diamonds", "♦"), ("disappointed", "😞"), ("disappointed_relieved", "😥"), ("dizzy", "💫"),
   ("dizzy_face", "😵"), ("do_not_litter", "🚯"), ("dollar", "💵"), ("dolls", "🎎"),
   ("dolphin", "🐬"), ("door", "🚪"), ("doughnut", "🍩"), ("dragon", "🐉"), ("dragon_face", "🐲"),
   ("dress", "👗"), ("duck", "🦆"), ("dvd", "📀"), ("e-mail", "📧"), ("eagle", "🦅"), ("ear", "👂"),
   ("ear_of_rice", "🌾"), ("earth_africa", "🌍"), ("earth_americas", "🌎"), ("earth_asia", "🌏"),
   ("eggplant", "🍆"), ("eight_pointed_black_star", "✴"), ("eight_spoked_asterisk", "✳"),
   ("electric_plug", "🔌"), ("elephant", "🐘"), ("email", "✉"), ("end", "🔚"), ("envelope", "✉"),
   ("es", "🇪🇸"), ("euro", "💶"), ("european_castle", "🏰"), ("european_post_office", "🏤"),
   ("evergreen_tree", "🌲"), ("exclamation", "❗"), ("expressionless", "😑"), ("eyeglasses", "👓"),
   ("eyes", "👀"), ("facepunch", "👊"), ("factory", "🏭"), ("fallen_leaf", "🍂"), ("family", "👪"),
   ("fast_forward", "⏩"), ("fax", "📠"), ("fearful", "😨"), ("feet", "🐾"), ("ferris_wheel", "🎡"),
   ("file_folder", "📁"), ("fire", "🔥"), ("fire_engine", "🚒"), ("fireworks", "🎆"),
   ("first_quarter_moon", "🌓"), ("fish", "🐟"), ("fish_cake", "🍥"), ("fist", "✊"), ("flags", "🎏"),
   ("flashlight", "🔦"), ("floppy_disk", "💾"), ("flower_playing_cards", "🎴"), ("flushed", "😳"),
   ("foggy", "🌁"), ("football", "🏈"), ("footprints", "👣"), ("fork_and_knife", "🍴"),
   ("fountain", "⛲"), ("four_leaf_clover", "🍀"), ("fox", "🦊"), ("fr", "🇫🇷"), ("free", "🆓"),
   ("fried_shrimp", "🍤"), ("fries", "🍟"), ("frog", "🐸"), ("frowning", "😦"), ("fuelpump", "⛽"),
   ("full_moon", "🌕"), ("game_die", "🎲"), ("gb", "🇬🇧"), ("gem", "💎"), ("gemini", "♊"),
   ("ghost", "👻"), ("gift", "🎁"), ("gift_heart", "💝"), ("girl", "👧"),
   ("globe_with_meridians", "🌐"), ("goat", "🐐"), ("golf", "⛳"), ("grapes", "🍇"),
   ("green_apple", "🍏"), ("green_book", "📗"), ("green_heart", "💚"), ("grey_exclamation", "❕"),
   ("grey_question", "❔"), ("grimacing", "😬"), ("grin", "😁"), ("grinning", "😀"),
   ("guardsman", "💂"), ("guitar", "🎸"), ("gun", "🔫"), ("haircut", "💇"), ("hamburger", "🍔"),
   ("hammer", "🔨"), ("hand", "✋"), ("handbag", "👜"), ("hankey", "💩"), ("hatched_chick", "🐥"),
   ("hatching_chick", "🐣"), ("headphones", "🎧"), ("hear_no_evil", "🙉"), ("heart", "❤"),
   ("heart_decoration", "💟"), ("heart_eyes", "😍"), ("heartbeat", "💓"), ("heartpulse", "💗"),
   ("hearts", "♥"), ("heavy_check_mark", "✔"), ("heavy_division_sign", "➗"),
   ("heavy_dollar_sign", "💲"), ("heavy_minus_sign", "➖"), ("heavy_multiplication_x", "✖"),
   ("heavy_plus_sign", "➕"), ("helicopter", "🚁"), ("herb", "🌿"), ("hibiscus", "🌺"),
   ("high_brightness", "🔆"), ("high_heel", "👠"), ("hocho", "🔪"), ("honey_pot", "🍯"),
   ("honeybee", "🐝"), ("hospital", "🏥"), ("hotel", "🏨"), ("hotsprings", "♨"), ("hourglass", "⌛"),
   ("hourglass_flowing_sand", "⏳"), ("house", "🏠"), ("house_with_garden", "🏡"), ("hushed", "😯"),
   ("ice_cream", "🍨"), ("icecream", "🍦"), ("id", "🆔"), ("imp", "👿"), ("inbox_tray", "📥"),
   ("incoming_envelope", "📨"), ("information", "ℹ"), ("information_source", "ℹ"),
   ("innocent", "😇"), ("interrobang", "⁉"), ("iphone", "📱"), ("it", "🇮🇹"),
   ("jack_o_lantern", "🎃"), ("japanese_castle", "🏯"), ("japanese_goblin", "👺"),
   ("japanese_ogre", "👹"), ("jeans", "👖"), ("joy", "😂"), ("jp", "🇯🇵"), ("key", "🔑"),
   ("kimono", "👘"), ("kissing", "😗"), ("kissing_closed_eyes", "😚"), ("kissing_heart", "😘"),
   ("kissing_smiling_eyes", "😙"), ("koala", "🐨"), ("koko", "🈁"), ("kr", "🇰🇷"),
   ("large_blue_circle", "🔵"), ("large_blue_diamond", "🔷"), ("large_orange_diamond", "🔶"),
   ("last_quarter_moon", "🌗"), ("laughing", "😆"), ("leaves", "🍃"), ("ledger", "📒"),
   ("left_luggage", "🛅"), ("left_right_arrow", "↔"), ("leftwards_arrow_with_hook", "↩"),
   ("lemon", "🍋"), ("leo", "♌"), ("leopard", "🐆"), ("libra", "♎"), ("light_bulb", "💡"),
   ("link", "🔗"), ("lion", "🦁"), ("lips", "👄"), ("lipstick", "💄"), ("lock", "🔒"),
   ("lock_with_ink_pen", "🔏"), ("locked", "🔒"), ("lollipop", "🍭"), ("loop", "➿"),
   ("loudspeaker", "📢"), ("love_hotel", "🏩"), ("love_letter", "💌"), ("low_brightness", "🔅"),
   ("m", "Ⓜ"), ("mag", "🔍"), ("mag_right", "🔎"), ("mahjong", "🀄"), ("mailbox", "📫"),
   ("mailbox_closed", "📪"), ("mailbox_with_mail", "📬"), ("mailbox_with_no_mail", "📭"),
   ("man", "👨"), ("mans_shoe", "👞"), ("maple_leaf", "🍁"), ("mask", "😷"), ("massage", "💆"),
   ("meat_on_bone", "🍖"), ("mega", "📣"), ("melon", "🍈"), ("memo", "📝"), ("mens", "🚹"),
   ("metal", "🤘"), ("microphone", "🎤"), ("microscope", "🔬"), ("milky_way", "🌌"),
   ("minibus", "🚐"), ("minidisc", "💽"), ("mobile_phone_off", "📴"), ("money_bag", "💰"),
   ("money_with_wings", "💸"), ("moneybag", "💰"), ("monkey", "🐒"), ("monkey_face", "🐵"),
   ("monorail", "🚝"), ("mortar_board", "🎓"), ("mount_fuji", "🗻"), ("mountain_cableway", "🚠"),
   ("mountain_railway", "🚞"), ("movie_camera", "🎥"), ("moyai", "🗿"), ("muscle", "💪"),
   ("mushroom", "🍄"), ("musical_keyboard", "🎹"), ("musical_note", "🎵"), ("musical_score", "🎼"),
   ("mute", "🔇"), ("nail_care", "💅"), ("name_badge", "📛"), ("necktie", "👔"),
   ("negative_squared_cross_mark", "❎"), ("neutral_face", "😐"), ("new", "🆕"), ("new_moon", "🌑"),
   ("newspaper", "📰"), ("ng", "🆖"), ("no_bell", "🔕"), ("no_bicycles", "🚳"), ("no_entry", "⛔"),
   ("no_entry_sign", "🚫"), ("no_good", "🙅"), ("no_mobile_phones", "📵"), ("no_mouth", "😶"),
   ("no_pedestrians", "🚷"), ("no_smoking", "🚭"), ("non-potable_water", "🚱"), ("nose", "👃"),
   ("notebook", "📓"), ("notebook_with_decorative_cover", "📔"), ("notes", "🎶"),
   ("nut_and_bolt", "🔩"), ("o", "⭕"), ("o2", "🅾"), ("ocean", "🌊"), ("octopus", "🐙"),
   ("oden", "🍢"), ("office", "🏢"), ("ok", "🆗"), ("ok_hand", "👌"), ("ok_woman", "🙆"),
   ("older_man", "👴"), ("older_woman", "👵"), ("on", "🔛"), ("oncoming_bus", "🚍"),
   ("oncoming_police_car", "🚔"), ("oncoming_taxi", "🚖"), ("open_book", "📖"),
   ("open_file_folder", "📂"), ("open_hands", "👐"), ("open_mouth", "😮"), ("ophiuchus", "⛎"),
   ("orange_book", "📙"), ("outbox_tray", "📤"), ("owl", "🦉"), ("package", "📦"),
   ("page_facing_up", "📄"), ("page_with_curl", "📃"), ("pager", "📟"), ("palm_tree", "🌴"),
   ("panda_face", "🐼"), ("paperclip", "📎"), ("parking", "🅿"), ("part_alternation_mark", "〽"),
   ("party_popper", "🎉"), ("passport_control", "🛂"), ("peach", "🍑"), ("pear", "🍐"),
   ("pencil2", "✏"), ("penguin", "🐧"), ("pensive", "😔"), ("performing_arts", "🎭"),
   ("persevere", "😣"), ("person_frowning", "🙍"), ("person_with_blond_hair", "👱"), ("phone", "☎"),
   ("pig_nose", "🐽"), ("pile_of_poo", "💩"), ("pill", "💊"), ("pineapple", "🍍"), ("pisces", "♓"),
   ("pizza", "🍕"), ("point_down", "👇"), ("point_left", "👈"), ("point_right", "👉"),
   ("point_up", "☝"), ("point_up_2", "👆"), ("police_car", "🚓"), ("poodle", "🐩"), ("poop", "💩"),
   ("post_office", "🏣"), ("postal_horn", "📯"), ("postbox", "📮"), ("potable_water", "🚰"),
   ("pouch", "👝"), ("poultry_leg", "🍗"), ("pound", "💷"), ("pray", "🙏"), ("princess", "👸"),
   ("punch", "👊"), ("purple_heart", "💜"), ("purse", "👛"), ("pushpin", "📌"), ("question", "❓"),
   ("raccoon", "🦝"), ("radio", "📻"), ("radio_button", "🔘"), ("rage", "😡"), ("rainbow", "🌈"),
   ("raised_hand", "✋"), ("raised_hands", "🙌"), ("raising_hand", "🙋"), ("ramen", "🍜"),
   ("recycle", "♻"), ("red_car", "🚗"), ("red_circle", "🔴"), ("red_heart", "❤"),
   ("registered", "®"), ("relaxed", "☺"), ("relieved", "😌"), ("repeat", "🔁"),
   ("repeat_one", "🔂"), ("restroom", "🚻"), ("revolving_hearts", "💞"), ("rewind", "⏪"),
   ("rice", "🍚"), ("rice_ball", "🍙"), ("rice_cracker", "🍘"), ("ring", "💍"), ("robot", "🤖"),
   ("rocket", "🚀"), ("roller_coaster", "🎢"), ("rooster", "🐓"), ("rose", "🌹"),
   ("rotating_light", "🚨"), ("round_pushpin", "📍"), ("rowboat", "🚣"), ("ru", "🇷🇺"),
   ("rugby_football", "🏉"), ("runner", "🏃"), ("running", "🏃"), ("sagittarius", "♐"),
   ("sailboat", "⛵"), ("sake", "🍶"), ("sandal", "👡"), ("santa", "🎅"), ("satisfied", "😆"),
   ("saxophone", "🎷"), ("school", "🏫"), ("school_satchel", "🎒"), ("scissors", "✂"),
   ("scorpion", "🦂"), ("scorpius", "♏"), ("scream", "😱"), ("scroll", "📜"), ("seat", "💺"),
   ("secret", "㊙"), ("see_no_evil", "🙈"), ("seedling", "🌱"), ("shark", "🦈"), ("shaved_ice", "🍧"),
   ("shell", "🐚"), ("ship", "🚢"), ("shirt", "👕"), ("shower", "🚿"), ("signal_strength", "📶"),
   ("six_pointed_star", "🔯"), ("ski", "🎿"), ("skull", "💀"), ("sleeping", "😴"), ("sleepy", "😪"),
   ("slot_machine", "🎰"), ("small_blue_diamond", "🔹"), ("small_orange_diamond", "🔸"),
   ("small_red_triangle", "🔺"), ("small_red_triangle_down", "🔻"), ("smile", "😄"),
   ("smiley", "😃"), ("smiling_imp", "😈"), ("smirk", "😏"), ("smoking", "🚬"), ("snail", "🐌"),
   ("snake", "🐍"), ("snowboarder", "🏂"), ("snowflake", "❄"), ("sob", "😭"), ("soccer", "⚽"),
   ("soon", "🔜"), ("sos", "🆘"), ("sound", "🔉"), ("space_invader", "👾"), ("spades", "♠"),
   ("spaghetti", "🍝"), ("sparkler", "🎇"), ("sparkles", "✨"), ("sparkling_heart", "💖"),
   ("speak_no_evil", "🙊"), ("speech_balloon", "💬"), ("speedboat", "🚤"), ("star", "⭐"),
   ("star2", "🌟"), ("stars", "🌠"), ("station", "🚉"), ("statue_of_liberty", "🗽"),
   ("steam_locomotive", "🚂"), ("stew", "🍲"), ("straight_ruler", "📏"), ("strawberry", "🍓"),
   ("stuck_out_tongue", "😛"), ("stuck_out_tongue_closed_eyes", "😝"),
   ("stuck_out_tongue_winking_eye", "😜"), ("sun_with_face", "🌞"), ("sunflower", "🌻"),
   ("sunglasses", "😎"), ("sunny", "☀"), ("sunrise", "🌅"), ("sunrise_over_mountains", "🌄"),
   ("surfer", "🏄"), ("sushi", "🍣"), ("suspension_railway", "🚟"), ("sweat", "😓"),
   ("sweat_drops", "💦"), ("sweat_smile", "😅"), ("sweet_potato", "🍠"), ("swimmer", "🏊"),
   ("symbols", "🔣"), ("syringe", "💉"), ("tada", "🎉"), ("tanabata_tree", "🎋"), ("tangerine", "🍊"),
   ("taurus", "♉"), ("taxi", "🚕"), ("tea", "🍵"), ("telephone", "☎"), ("telephone_receiver", "📞"),
   ("telescope", "🔭"), ("tennis", "🎾"), ("tent", "⛺"), ("thought_balloon", "💭"),
   ("thumbs_down", "👎"), ("thumbs_up", "👍"), ("thumbsdown", "👎"), ("thumbsup", "👍"),
   ("ticket", "🎫"), ("tired_face", "😫"), ("tm", "™"), ("toilet", "🚽"), ("tokyo_tower", "🗼"),
   ("tomato", "🍅"), ("tongue", "👅"), ("top", "🔝"), ("tophat", "🎩"), ("tractor", "🚜"),
   ("traffic_light", "🚥"), ("tram", "🚊"), ("triangular_flag_on_post", "🚩"),
   ("triangular_ruler", "📐"), ("trident", "🔱"), ("triumph", "😤"), ("trolleybus", "🚎"),
   ("trophy", "🏆"), ("tropical_drink", "🍹"), ("tropical_fish", "🐠"), ("truck", "🚚"),
   ("trumpet", "🎺"), ("tshirt", "👕"), ("tulip", "🌷"), ("turkey", "🦃"), ("turtle", "🐢"),
   ("tv", "📺"), ("twisted_rightwards_arrows", "🔀"), ("two_hearts", "💕"), ("uk", "🇬🇧"),
   ("unamused", "😒"), ("underage", "🔞"), ("unicorn", "🦄"), ("unlock", "🔓"), ("unlocked", "🔓"),
   ("up", "🆙"), ("us", "🇺🇸"), ("v", "✌"), ("vampire", "🧛"), ("vertical_traffic_light", "🚦"),
   ("vhs", "📼"), ("vibration_mode", "📳"), ("video_camera", "📹"), ("video_game", "🎮"),
   ("violin", "🎻"), ("virgo", "♍"), ("volcano", "🌋"), ("vs", "🆚"), ("walking", "🚶"),
   ("waning_crescent_moon", "🌘"), ("waning_gibbous_moon", "🌖"), ("warning", "⚠"), ("watch", "⌚"),
   ("watermelon", "🍉"), ("wave", "👋"), ("waving_hand", "👋"), ("wavy_dash", "〰"),
   ("waxing_crescent_moon", "🌒"), ("wc", "🚾"), ("weary", "😩"), ("wedding", "💒"),
   ("wheelchair", "♿"), ("white_check_mark", "✅"), ("white_circle", "⚪"), ("white_flower", "💮"),
   ("white_square_button", "🔳"), ("wind_chime", "🎐"), ("wine_glass", "🍷"), ("wink", "😉"),
   ("wolf", "🐺"), ("woman", "👩"), ("womans_clothes", "👚"), ("womens", "🚺"), ("worried", "😟"),
   ("wrench", "🔧"), ("x", "❌"), ("yellow_heart", "💛"), ("yen", "💴"), ("yum", "😋"), ("zap", "⚡"),
   ("zzz", "💤")]

/-- The marks behind a picture that say how it is drawn. -/
def drawnAsText : Char := Char.ofNat 0xFE0E
def drawnInColours : Char := Char.ofNat 0xFE0F

/-- A word without what it ends in, if it ends in that. -/
def dropEnding? (ending word : List Char) : Option (List Char) :=
  if ending.isSuffixOf word then some (word.take (word.length - ending.length)) else none

/-- The picture for a word, with the mark that the word asks for. -/
def picture? (word : List Char) : Option (List Char) :=
  let (name, marks) :=
    match dropEnding? "-text".toList word, dropEnding? "-emoji".toList word with
    | some name, _ => (name, [drawnAsText])
    | none, some name => (name, [drawnInColours])
    | none, none => (word, [])
  (pictures.lookup (String.ofList name).toLower).map fun p => p.toList ++ marks

/-- Pieces of a text with a colon in front of each.  A piece without blanks and the
colon behind it are a word, whether it is the name of a picture or not. -/
def drawPieces : List (List Char) → List Char
  | [] => []
  | [piece] => ':' :: piece
  | word :: next :: rest =>
    if word.any isGap then ':' :: word ++ drawPieces (next :: rest)
    else ((picture? word).getD (':' :: word ++ [':'])) ++ next ++ drawPieces rest

/-- A text with the pictures that are named in it. -/
def drawPictures (s : List Char) : List Char :=
  match s.splitOn ':' with
  | [] => []
  | first :: rest => first ++ drawPieces rest

end Text
end RouteTemplate
