import Colloquy.Text.Marks

/-!
# Composed text

One text may be written with letters that carry their marks, or with letters and marks apart. The composed form takes
all letters apart, puts the marks on each in the order of their classes, and puts together what has a character of its
own. Syllables of Hangul are put together by rule, all else by a table.
-/

namespace Colloquy.Text

/-- For each mark, the letters it stands on, each followed by the character that the two make. -/
def compositions : List (Nat × String) := [
    (0x300, "AÀEÈIÌOÒUÙaàeèiìoòuùÜǛüǜNǸnǹЕЀИЍеѐиѝĒḔēḕŌṐōṑWẀwẁÂẦâầĂẰăằÊỀêềÔỒôồƠỜơờƯỪưừYỲyỳἀἂἁἃἈἊἉἋἐἒἑἓ"),
    (0x300, "ἘἚἙἛἠἢἡἣἨἪἩἫἰἲἱἳἸἺἹἻὀὂὁὃὈὊὉὋὐὒὑὓὙὛὠὢὡὣὨὪὩὫαὰεὲηὴιὶοὸυὺωὼΑᾺΕῈΗῊ᾿῍ϊῒΙῚ῾῝ϋῢΥῪ¨῭ΟῸΩῺ"),
    (0x301, "AÁEÉIÍOÓUÚYÝaáeéiíoóuúyýCĆcćLĹlĺNŃnńRŔrŕSŚsśZŹzźÜǗüǘGǴgǵÅǺåǻÆǼæǽØǾøǿ¨΅ΑΆΕΈΗΉΙΊΟΌΥΎΩΏϊΐαά"),
    (0x301, "εέηήιίϋΰοόυύωώϒϓГЃКЌгѓкќÇḈçḉĒḖēḗÏḮïḯKḰkḱMḾmḿÕṌõṍŌṒōṓPṔpṕŨṸũṹWẂwẃÂẤâấĂẮăắÊẾêếÔỐôốƠỚơớƯỨưứ"),
    (0x301, "ἀἄἁἅἈἌἉἍἐἔἑἕἘἜἙἝἠἤἡἥἨἬἩἭἰἴἱἵἸἼἹἽὀὄὁὅὈὌὉὍὐὔὑὕὙὝὠὤὡὥὨὬὩὭ᾿῎῾῞"),
    (0x302, "AÂEÊIÎOÔUÛaâeêiîoôuûCĈcĉGĜgĝHĤhĥJĴjĵSŜsŝWŴwŵYŶyŷZẐzẑẠẬạậẸỆẹệỌỘọộ"),
    (0x303, "AÃNÑOÕaãnñoõIĨiĩUŨuũVṼvṽÂẪâẫĂẴăẵEẼeẽÊỄêễÔỖôỗƠỠơỡƯỮưữYỸyỹ"),
    (0x304, "AĀaāEĒeēIĪiīOŌoōUŪuūÜǕüǖÄǞäǟȦǠȧǡÆǢæǣǪǬǫǭÖȪöȫÕȬõȭȮȰȯȱYȲyȳИӢиӣУӮуӯGḠgḡḶḸḷḹṚṜṛṝαᾱΑᾹιῑΙῙυῡΥῩ"),
    (0x306, "AĂaăEĔeĕGĞgğIĬiĭOŎoŏUŬuŭУЎИЙийуўЖӁжӂАӐаӑЕӖеӗȨḜȩḝẠẶạặαᾰΑᾸιῐΙῘυῠΥῨ"),
    (0x307, "CĊcċEĖeėGĠgġIİZŻzżAȦaȧOȮoȯBḂbḃDḊdḋFḞfḟHḢhḣMṀmṁNṄnṅPṖpṗRṘrṙSṠsṡŚṤśṥŠṦšṧṢṨṣṩTṪtṫWẆwẇXẊxẋYẎ"),
    (0x307, "yẏſẛ𐗒𐗉𐗚𐗤"),
    (0x308, "AÄEËIÏOÖUÜaäeëiïoöuüyÿYŸΙΪΥΫιϊυϋϒϔЕЁІЇеёіїАӒаӓӘӚәӛЖӜжӝЗӞзӟИӤиӥОӦоӧӨӪөӫЭӬэӭУӰуӱЧӴчӵЫӸыӹHḦ"),
    (0x308, "hḧÕṎõṏŪṺūṻWẄwẅXẌxẍtẗ"), (0x309, "AẢaảÂẨâẩĂẲăẳEẺeẻÊỂêểIỈiỉOỎoỏÔỔôổƠỞơởUỦuủƯỬưửYỶyỷ"),
    (0x30A, "AÅaåUŮuůwẘyẙ"), (0x30B, "OŐoőUŰuűУӲуӳ"),
    (0x30C, "CČcčDĎdďEĚeěLĽlľNŇnňRŘrřSŠsšTŤtťZŽzžAǍaǎIǏiǐOǑoǒUǓuǔÜǙüǚGǦgǧKǨkǩƷǮʒǯjǰHȞhȟ"),
    (0x30F, "AȀaȁEȄeȅIȈiȉOȌoȍRȐrȑUȔuȕѴѶѵѷ"), (0x311, "AȂaȃEȆeȇIȊiȋOȎoȏRȒrȓUȖuȗ"),
    (0x313, "αἀΑἈεἐΕἘηἠΗἨιἰΙἸοὀΟὈυὐωὠΩὨρῤ"), (0x314, "αἁΑἉεἑΕἙηἡΗἩιἱΙἹοὁΟὉυὑΥὙωὡΩὩρῥΡῬ"), (0x31B, "OƠoơUƯuư"),
    (0x323, "BḄbḅDḌdḍHḤhḥKḲkḳLḶlḷMṂmṃNṆnṇRṚrṛSṢsṣTṬtṭVṾvṿWẈwẉZẒzẓAẠaạEẸeẹIỊiịOỌoọƠỢơợUỤuụƯỰưựYỴyỵ"),
    (0x324, "UṲuṳ"), (0x325, "AḀaḁ"), (0x326, "SȘsșTȚtț"), (0x327, "CÇcçGĢgģKĶkķLĻlļNŅnņRŖrŗSŞsşTŢtţEȨeȩDḐdḑHḨhḩ"),
    (0x328, "AĄaąEĘeęIĮiįUŲuųOǪoǫ"), (0x32D, "DḒdḓEḘeḙLḼlḽNṊnṋTṰtṱUṶuṷ"), (0x32E, "HḪhḫ"), (0x330, "EḚeḛIḬiḭUṴuṵ"),
    (0x331, "BḆbḇDḎdḏKḴkḵLḺlḻNṈnṉRṞrṟTṮtṯZẔzẕhẖ"),
    (0x338, "←↚→↛↔↮⇐⇍⇔⇎⇒⇏∃∄∈∉∋∌∣∤∥∦∼≁≃≄≅≇≈≉=≠≡≢≍≭<≮>≯≤≰≥≱≲≴≳≵≶≸≷≹≺⊀≻⊁⊂⊄⊃⊅⊆⊈⊇⊉⊢⊬⊨⊭⊩⊮⊫⊯≼⋠≽⋡⊑⋢⊒⋣⊲⋪⊳⋫⊴⋬⊵⋭"),
    (0x342, "ἀἆἁἇἈἎἉἏἠἦἡἧἨἮἩἯἰἶἱἷἸἾἹἿὐὖὑὗὙὟὠὦὡὧὨὮὩὯαᾶ¨῁ηῆ᾿῏ιῖϊῗ῾῟υῦϋῧωῶ"),
    (0x345, "ἀᾀἁᾁἂᾂἃᾃἄᾄἅᾅἆᾆἇᾇἈᾈἉᾉἊᾊἋᾋἌᾌἍᾍἎᾎἏᾏἠᾐἡᾑἢᾒἣᾓἤᾔἥᾕἦᾖἧᾗἨᾘἩᾙἪᾚἫᾛἬᾜἭᾝἮᾞἯᾟὠᾠὡᾡὢᾢὣᾣὤᾤὥᾥὦᾦὧᾧὨᾨὩᾩὪᾪὫᾫ"),
    (0x345, "ὬᾬὭᾭὮᾮὯᾯὰᾲαᾳάᾴᾶᾷΑᾼὴῂηῃήῄῆῇΗῌὼῲωῳώῴῶῷΩῼ"), (0x653, "\u0627\u0622"),
    (0x654, "\u0627\u0623\u0648\u0624\u064A\u0626\u06D5\u06C0\u06C1\u06C2\u06D2\u06D3"), (0x655, "\u0627\u0625"),
    (0x93C, "नऩरऱळऴ"), (0x9BE, "\u09C7\u09CB"), (0x9D7, "\u09C7\u09CC"), (0xB3E, "\u0B47\u0B4B"),
    (0xB56, "\u0B47\u0B48"), (0xB57, "\u0B47\u0B4C"), (0xBBE, "\u0BC6\u0BCA\u0BC7\u0BCB"),
    (0xBD7, "ஒஔ\u0BC6\u0BCC"), (0xC56, "\u0C46\u0C48"), (0xCC2, "\u0CC6\u0CCA"),
    (0xCD5, "\u0CBF\u0CC0\u0CC6\u0CC7\u0CCA\u0CCB"), (0xCD6, "\u0CC6\u0CC8"), (0xD3E, "\u0D46\u0D4A\u0D47\u0D4B"),
    (0xD57, "\u0D46\u0D4C"), (0xDCA, "\u0DD9\u0DDA\u0DDC\u0DDD"), (0xDCF, "\u0DD9\u0DDC"), (0xDDF, "\u0DD9\u0DDE"),
    (0x102E, "ဥဦ"), (0x1B35, "ᬅᬆᬇᬈᬉᬊᬋᬌᬍᬎᬑᬒ\u1B3A\u1B3B\u1B3C\u1B3D\u1B3E\u1B40\u1B3F\u1B41\u1B42\u1B43"),
    (0x3099, "かがきぎくぐけげこごさざしじすずせぜそぞただちぢつづてでとどはばひびふぶへべほぼうゔゝゞカガキギクグケゲコゴサザシジスズセゼソゾタダチヂツヅテデトドハバヒビフブヘベホボウヴワヷ"),
    (0x3099, "ヰヸヱヹヲヺヽヾ"), (0x309A, "はぱひぴふぷへぺほぽハパヒピフプヘペホポ"), (0x110BA, "𑂙𑂚𑂛𑂜𑂥𑂫"), (0x11127, "𑄱𑄮𑄲𑄯"), (0x1133E, "𑍇𑍋"),
    (0x11357, "𑍇𑍌"), (0x113B8, "𑏅𑎸"), (0x113BB, "𑎄𑎅"), (0x113C2, "𑎋𑎎𑏅𑏂"), (0x113C9, "𑎂𑎃𑎐𑎑𑏅𑏉"), (0x114B0, "𑒹𑒼"),
    (0x114BA, "𑒹𑒻"), (0x114BD, "𑒹𑒾"), (0x115AF, "𑖸𑖺𑖹𑖻"), (0x11930, "𑤵𑤸"), (0x1611E, "𖄡𖄞"), (0x1611F, "𖄦𖄩𖄤𖄡𖄦𖄢𖄧"),
    (0x16120, "𖄨𖄡𖄨"), (0x16129, "𖄡𖄩"), (0x16D67, "𖵨𖵧𖵣𖵩𖵩𖵪") ]

/-- The pairs of a letter and of what it makes, from a text of both in turn. -/
def alternating : List Char → List (Char × Char)
  | letter :: made :: rest => (letter, made) :: alternating rest
  | _ => []

/-- The first syllable of Hangul, and the first of each kind of its parts. -/
def syllableStart : Nat := 0xAC00
def leadStart : Nat := 0x1100
def vowelStart : Nat := 0x1161
def tailStart : Nat := 0x11A7

/-- The syllable that two of its parts make: a lead and a vowel, or a syllable without a tail and a tail. -/
def syllable? (a b : Char) : Option Char :=
  let lead := a.toNat - leadStart
  let vowel := b.toNat - vowelStart
  let tail := b.toNat - tailStart
  if leadStart ≤ a.toNat ∧ lead < 19 ∧ vowelStart ≤ b.toNat ∧ vowel < 21 then
    some (Char.ofNat (syllableStart + (lead * 21 + vowel) * 28))
  else if syllableStart ≤ a.toNat ∧ a.toNat < syllableStart + 11172 ∧ (a.toNat - syllableStart) % 28 = 0
      ∧ tailStart < b.toNat ∧ tail < 28 then
    some (Char.ofNat (a.toNat + tail))
  else none

/-- The character that two make together. -/
def together? (a b : Char) : Option Char :=
  match syllable? a b with
  | some c => some c
  | none => (compositions.filter (·.1 == b.toNat)).findSome? fun row => (alternating row.2.toList).lookup a

/-- The two that a character is made of. -/
def parts? (c : Char) : Option (Char × Char) :=
  let n := c.toNat - syllableStart
  if syllableStart ≤ c.toNat ∧ n < 11172 then
    if n % 28 = 0 then some (Char.ofNat (leadStart + n / 28 / 21), Char.ofNat (vowelStart + n / 28 % 21))
    else some (Char.ofNat (c.toNat - n % 28), Char.ofNat (tailStart + n % 28))
  else compositions.findSome? fun row =>
    ((alternating row.2.toList).find? (·.2 == c)).map fun pair => (pair.1, Char.ofNat row.1)

/-- A character taken apart, to a depth that none exceeds. -/
def apart : (depth : Nat) → Char → List Char
  | 0, c => [c]
  | depth + 1, c =>
    match parts? c with
    | some (a, b) => apart depth a ++ [b]
    | none => [c]

/-- A character put behind those of its class and of lower ones; a letter stays where it is. -/
def insertMark (c : Char) : (reversed : List Char) → List Char
  | [] => [c]
  | d :: rest =>
    if combiningClass c ≠ 0 ∧ combiningClass c < combiningClass d then d :: insertMark c rest else c :: d :: rest

/-- A text with the marks on each letter in the order of their classes. -/
def arrange (text : List Char) : List Char :=
  (text.foldl (fun done c => insertMark c done) []).reverse

/-- What follows a letter put together with it where it can be. A mark is kept from the letter by one of its own class
between them, and all else by any mark. -/
def joinFrom (letter : Char) (marks : List Char) : List Char → List Char
  | [] => letter :: marks.reverse
  | c :: rest =>
    let reaches := match marks with
      | [] => true
      | last :: _ => combiningClass c ≠ 0 && combiningClass last < combiningClass c
    match if reaches then together? letter c else none with
    | some made => joinFrom made marks rest
    | none =>
      if combiningClass c = 0 then letter :: marks.reverse ++ joinFrom c [] rest else joinFrom letter (c :: marks) rest

/-- The composed form of a text. -/
def compose (text : List Char) : List Char :=
  match arrange (text.flatMap (apart 4)) with
  | [] => []
  | c :: rest => joinFrom c [] rest

end Colloquy.Text
