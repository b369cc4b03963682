/-! Plain forms: what letters, figures and signs that stand for others amount to, all of it in small
letters. -/
namespace Dialogue.Text

def formMark : Char := '§'

/-- Runs of code points by their first, each with the forms of its characters. An empty form is
that of a character that stands for itself. -/
def plainRuns : List (Nat × String) := [
  (0xa0, " "), (0xa8, " ̈§§a"),
  (0xaf, " ̄§§§2§3§ ́§μ§§§ ̧§1§o§§1⁄4§1⁄2§3⁄4§§à§á§â§ã§ä§å§æ§ç§è§é§ê§ë§ì§í§î§ï§ð§ñ§ò§ó"),
  (0xd4, "ô§õ§ö§§ø§ù§ú§û§ü§ý§þ§ss"),
  (0x100, "ā§§ă§§ą§§ć§§ĉ§§ċ§§č§§ď§§đ§§ē§§ĕ§§ė§§ę§§ě§§ĝ§§ğ§§ġ§§ģ§§ĥ§§ħ§§ĩ§§ī§§ĭ§§į§§i̇"),
  (0x132, "ij§ij§ĵ§§ķ§§§ĺ§§ļ§§ľ§§l·§l·§ł§§ń§§ņ§§ň§§ʼn§ŋ§§ō§§ŏ§§ő§§œ§§ŕ§§ŗ§§ř§§ś§§ŝ§§ş"),
  (0x160, "š§§ţ§§ť§§ŧ§§ũ§§ū§§ŭ§§ů§§ű§§ų§§ŵ§§ŷ§§ÿ§ź§§ż§§ž§§s§§ɓ§ƃ§§ƅ§§ɔ§ƈ§§ɖ§ɗ§ƌ§§§ǝ§ə§ɛ"),
  (0x191, "ƒ§§ɠ§ɣ§§ɩ§ɨ§ƙ"), (0x19c, "ɯ§ɲ§§ɵ§ơ§§ƣ§§ƥ§§ʀ§ƨ§§ʃ§§§ƭ§§ʈ§ư§§ʊ§ʋ§ƴ§§ƶ§§ʒ§ƹ"), (0x1bc, "ƽ"),
  (0x1c4, "dž§dž§dž§lj§lj§lj§nj§nj§nj§ǎ§§ǐ§§ǒ§§ǔ§§ǖ§§ǘ§§ǚ§§ǜ§§§ǟ§§ǡ§§ǣ§§ǥ§§ǧ§§ǩ§§ǫ§§ǭ"),
  (0x1ee, "ǯ§§§dz§dz§dz§ǵ§§ƕ§ƿ§ǹ§§ǻ§§ǽ§§ǿ§§ȁ§§ȃ§§ȅ§§ȇ§§ȉ§§ȋ§§ȍ§§ȏ§§ȑ§§ȓ§§ȕ§§ȗ§§ș§§ț§§ȝ"),
  (0x21e, "ȟ§§ƞ§§ȣ§§ȥ§§ȧ§§ȩ§§ȫ§§ȭ§§ȯ§§ȱ§§ȳ"), (0x23a, "ⱥ§ȼ§§ƚ§ⱦ§§§ɂ§§ƀ§ʉ§ʌ§ɇ§§ɉ§§ɋ§§ɍ§§ɏ"),
  (0x2b0, "h§ɦ§j§r§ɹ§ɻ§ʁ§w§y"), (0x2d8, " ̆§ ̇§ ̊§ ̨§ ̃§ ̋§§§ɣ§l§s§x§ʕ"), (0x340, "̀§́§§̓§̈́§ι"),
  (0x370, "ͱ§§ͳ§§ʹ§§ͷ"), (0x37a, " ι"), (0x37e, ";§ϳ"),
  (0x384, " ́§ ̈́§ά§·§έ§ή§ί§§ό§§ύ§ώ§§α§β§γ§δ§ε§ζ§η§θ§ι§κ§λ§μ§ν§ξ§ο§π§ρ§§σ§τ§υ§φ§χ§ψ§ω§ϊ"),
  (0x3ab, "ϋ"), (0x3c2, "σ"),
  (0x3cf, "ϗ§β§θ§υ§ύ§ϋ§φ§π§§ϙ§§ϛ§§ϝ§§ϟ§§ϡ§§ϣ§§ϥ§§ϧ§§ϩ§§ϫ§§ϭ§§ϯ§§κ§ρ§σ§§θ§ε§§ϸ§§σ§ϻ§§§ͻ"),
  (0x3fe, "ͼ§ͽ§ѐ§ё§ђ§ѓ§є§ѕ§і§ї§ј§љ§њ§ћ§ќ§ѝ§ў§џ§а§б§в§г§д§е§ж§з§и§й§к§л§м§н§о§п§р§с§т§у"),
  (0x424, "ф§х§ц§ч§ш§щ§ъ§ы§ь§э§ю§я"), (0x460, "ѡ§§ѣ§§ѥ§§ѧ§§ѩ§§ѫ§§ѭ§§ѯ§§ѱ§§ѳ§§ѵ§§ѷ§§ѹ§§ѻ§§ѽ§§ѿ§§ҁ"),
  (0x48a, "ҋ§§ҍ§§ҏ§§ґ§§ғ§§ҕ§§җ§§ҙ§§қ§§ҝ§§ҟ§§ҡ§§ң§§ҥ§§ҧ§§ҩ§§ҫ§§ҭ§§ү§§ұ§§ҳ§§ҵ§§ҷ§§ҹ§§һ§§ҽ"),
  (0x4be, "ҿ§§ӏ§ӂ§§ӄ§§ӆ§§ӈ§§ӊ§§ӌ§§ӎ§§§ӑ§§ӓ§§ӕ§§ӗ§§ә§§ӛ§§ӝ§§ӟ§§ӡ§§ӣ§§ӥ§§ӧ§§ө§§ӫ§§ӭ§§ӯ§§ӱ"),
  (0x4f2, "ӳ§§ӵ§§ӷ§§ӹ§§ӻ§§ӽ§§ӿ§§ԁ§§ԃ§§ԅ§§ԇ§§ԉ§§ԋ§§ԍ§§ԏ§§ԑ§§ԓ§§ԕ§§ԗ§§ԙ§§ԛ§§ԝ§§ԟ§§ԡ§§ԣ§§ԥ"),
  (0x526, "ԧ§§ԩ§§ԫ§§ԭ§§ԯ§§§ա§բ§գ§դ§ե§զ§է§ը§թ§ժ§ի§լ§խ§ծ§կ§հ§ձ§ղ§ճ§մ§յ§ն§շ§ո§չ§պ§ջ§ռ§ս§վ"),
  (0x54f, "տ§ր§ց§ւ§փ§ք§օ§ֆ"), (0x587, "եւ"), (0x675, "اٴ§وٴ§ۇٴ§يٴ"),
  (0x958, "क़§ख़§ग़§ज़§ड़§ढ़§फ़§य़"), (0x9dc, "ড়§ঢ়§§য়"), (0xa33, "ਲ਼§§§ਸ਼"),
  (0xa59, "ਖ਼§ਗ਼§ਜ਼§§§ਫ਼"), (0xb5c, "ଡ଼§ଢ଼"), (0xe33, "ํา"), (0xeb3, "ໍາ"), (0xedc, "ຫນ§ຫມ"),
  (0xf0c, "་"), (0xf43, "གྷ"), (0xf4d, "ཌྷ"), (0xf52, "དྷ"), (0xf57, "བྷ"), (0xf5c, "ཛྷ"),
  (0xf69, "ཀྵ"), (0xf73, "ཱི§§ཱུ§ྲྀ§ྲཱྀ§ླྀ§ླཱྀ"), (0xf81, "ཱྀ"), (0xf93, "ྒྷ"), (0xf9d, "ྜྷ"),
  (0xfa2, "ྡྷ"), (0xfa7, "ྦྷ"), (0xfac, "ྫྷ"), (0xfb9, "ྐྵ"),
  (0x10a0, "ⴀ§ⴁ§ⴂ§ⴃ§ⴄ§ⴅ§ⴆ§ⴇ§ⴈ§ⴉ§ⴊ§ⴋ§ⴌ§ⴍ§ⴎ§ⴏ§ⴐ§ⴑ§ⴒ§ⴓ§ⴔ§ⴕ§ⴖ§ⴗ§ⴘ§ⴙ§ⴚ§ⴛ§ⴜ§ⴝ§ⴞ§ⴟ§ⴠ§ⴡ§ⴢ§ⴣ§ⴤ§ⴥ"),
  (0x10c7, "ⴧ"), (0x10cd, "ⴭ"),
  (0x13a0, "ꭰ§ꭱ§ꭲ§ꭳ§ꭴ§ꭵ§ꭶ§ꭷ§ꭸ§ꭹ§ꭺ§ꭻ§ꭼ§ꭽ§ꭾ§ꭿ§ꮀ§ꮁ§ꮂ§ꮃ§ꮄ§ꮅ§ꮆ§ꮇ§ꮈ§ꮉ§ꮊ§ꮋ§ꮌ§ꮍ§ꮎ§ꮏ§ꮐ§ꮑ§ꮒ§ꮓ§ꮔ§ꮕ"),
  (0x13c6, "ꮖ§ꮗ§ꮘ§ꮙ§ꮚ§ꮛ§ꮜ§ꮝ§ꮞ§ꮟ§ꮠ§ꮡ§ꮢ§ꮣ§ꮤ§ꮥ§ꮦ§ꮧ§ꮨ§ꮩ§ꮪ§ꮫ§ꮬ§ꮭ§ꮮ§ꮯ§ꮰ§ꮱ§ꮲ§ꮳ§ꮴ§ꮵ§ꮶ§ꮷ§ꮸ§ꮹ§ꮺ§ꮻ"),
  (0x13ec, "ꮼ§ꮽ§ꮾ§ꮿ§ᏸ§ᏹ§ᏺ§ᏻ§ᏼ§ᏽ"),
  (0x1c90, "ა§ბ§გ§დ§ე§ვ§ზ§თ§ი§კ§ლ§მ§ნ§ო§პ§ჟ§რ§ს§ტ§უ§ფ§ქ§ღ§ყ§შ§ჩ§ც§ძ§წ§ჭ§ხ§ჯ§ჰ§ჱ§ჲ§ჳ§ჴ§ჵ"),
  (0x1cb6, "ჶ§ჷ§ჸ§ჹ§ჺ§§§ჽ§ჾ§ჿ"),
  (0x1e00, "ḁ§§ḃ§§ḅ§§ḇ§§ḉ§§ḋ§§ḍ§§ḏ§§ḑ§§ḓ§§ḕ§§ḗ§§ḙ§§ḛ§§ḝ§§ḟ§§ḡ§§ḣ§§ḥ§§ḧ§§ḩ§§ḫ§§ḭ§§ḯ§§ḱ§§ḳ"),
  (0x1e34, "ḵ§§ḷ§§ḹ§§ḻ§§ḽ§§ḿ§§ṁ§§ṃ§§ṅ§§ṇ§§ṉ§§ṋ§§ṍ§§ṏ§§ṑ§§ṓ§§ṕ§§ṗ§§ṙ§§ṛ§§ṝ§§ṟ§§ṡ§§ṣ§§ṥ§§ṧ"),
  (0x1e68, "ṩ§§ṫ§§ṭ§§ṯ§§ṱ§§ṳ§§ṵ§§ṷ§§ṹ§§ṻ§§ṽ§§ṿ§§ẁ§§ẃ§§ẅ§§ẇ§§ẉ§§ẋ§§ẍ§§ẏ§§ẑ§§ẓ§§ẕ"),
  (0x1e9a, "aʾ§ṡ§§§ss§§ạ§§ả§§ấ§§ầ§§ẩ§§ẫ§§ậ§§ắ§§ằ§§ẳ§§ẵ§§ặ§§ẹ§§ẻ§§ẽ§§ế§§ề§§ể§§ễ§§ệ§§ỉ§§ị"),
  (0x1ecc, "ọ§§ỏ§§ố§§ồ§§ổ§§ỗ§§ộ§§ớ§§ờ§§ở§§ỡ§§ợ§§ụ§§ủ§§ứ§§ừ§§ử§§ữ§§ự§§ỳ§§ỵ§§ỷ§§ỹ§§ỻ§§ỽ§§ỿ"),
  (0x1f08, "ἀ§ἁ§ἂ§ἃ§ἄ§ἅ§ἆ§ἇ"), (0x1f18, "ἐ§ἑ§ἒ§ἓ§ἔ§ἕ"), (0x1f28, "ἠ§ἡ§ἢ§ἣ§ἤ§ἥ§ἦ§ἧ"),
  (0x1f38, "ἰ§ἱ§ἲ§ἳ§ἴ§ἵ§ἶ§ἷ"), (0x1f48, "ὀ§ὁ§ὂ§ὃ§ὄ§ὅ"), (0x1f59, "ὑ§§ὓ§§ὕ§§ὗ"),
  (0x1f68, "ὠ§ὡ§ὢ§ὣ§ὤ§ὥ§ὦ§ὧ§§ά§§έ§§ή§§ί§§ό§§ύ§§ώ§§§ἀι§ἁι§ἂι§ἃι§ἄι§ἅι§ἆι§ἇι§ἀι§ἁι§ἂι§ἃι"),
  (0x1f8c, "ἄι§ἅι§ἆι§ἇι§ἠι§ἡι§ἢι§ἣι§ἤι§ἥι§ἦι§ἧι§ἠι§ἡι§ἢι§ἣι§ἤι§ἥι§ἦι§ἧι§ὠι§ὡι§ὢι§ὣι§ὤι"),
  (0x1fa5, "ὥι§ὦι§ὧι§ὠι§ὡι§ὢι§ὣι§ὤι§ὥι§ὦι§ὧι§§§ὰι§αι§άι§§§ᾶι§ᾰ§ᾱ§ὰ§ά§αι§ ̓§ι§ ̓§ ͂§ ̈͂"),
  (0x1fc2, "ὴι§ηι§ήι§§§ῆι§ὲ§έ§ὴ§ή§ηι§ ̓̀§ ̓́§ ̓͂"), (0x1fd3, "ΐ"), (0x1fd8, "ῐ§ῑ§ὶ§ί§§ ̔̀§ ̔́§ ̔͂"),
  (0x1fe3, "ΰ"),
  (0x1fe8, "ῠ§ῡ§ὺ§ύ§ῥ§ ̈̀§ ̈́§\x60§§§ὼι§ωι§ώι§§§ῶι§ὸ§ό§ὼ§ώ§ωι§ ́§ ̔§§ § § § § § § § § § § "),
  (0x2011, "‐"), (0x2017, " ̳"), (0x2024, ".§..§..."), (0x202f, " "), (0x2033, "′′§′′′§§‵‵§‵‵‵"),
  (0x203c, "!!§§ ̅"), (0x2047, "??§?!§!?"), (0x2057, "′′′′"), (0x205f, " "),
  (0x2070, "0§i§§§4§5§6§7§8§9§+§−§=§(§)§n§0§1§2§3§4§5§6§7§8§9§+§−§=§(§)"), (0x20a8, "rs"),
  (0x2100, "a/c§a/s§c§°c§§c/o§c/u§ɛ§§°f§g§h§h§h§h§ħ§i§i§l§l§§n§no§§§p§q§r§r§r§§§sm§tel"),
  (0x2122, "tm§§z§§ω§§z§§k§å§b§c§§e§e§f§ⅎ§m§o§א§ב§ג§ד§i"), (0x213d, "γ§γ§π§∑"),
  (0x2145, "d§d§e§i§j"),
  (0x2153, "1⁄3§2⁄3§1⁄5§2⁄5§3⁄5§4⁄5§1⁄6§5⁄6§1⁄8§3⁄8§5⁄8§7⁄8§1⁄§i§ii§iii§iv§v§vi§vii§viii"),
  (0x2168, "ix§x§xi§xii§l§c§d§m§i§ii§iii§iv§v§vi§vii§viii§ix§x§xi§xii§l§c§d§m"), (0x2183, "ↄ"),
  (0x222c, "∫∫§∫∫∫§§∮∮§∮∮∮"), (0x2329, "〈§〉"),
  (0x2460, "1§2§3§4§5§6§7§8§9§10§11§12§13§14§15§16§17§18§19§20§(1)§(2)§(3)§(4)§(5)§(6)"),
  (0x247a, "(7)§(8)§(9)§(10)§(11)§(12)§(13)§(14)§(15)§(16)§(17)§(18)§(19)§(20)§1.§2.§3."),
  (0x248b, "4.§5.§6.§7.§8.§9.§10.§11.§12.§13.§14.§15.§16.§17.§18.§19.§20.§(a)§(b)§(c)"),
  (0x249f, "(d)§(e)§(f)§(g)§(h)§(i)§(j)§(k)§(l)§(m)§(n)§(o)§(p)§(q)§(r)§(s)§(t)§(u)§(v)"),
  (0x24b2, "(w)§(x)§(y)§(z)§a§b§c§d§e§f§g§h§i§j§k§l§m§n§o§p§q§r§s§t§u§v§w§x§y§z§a§b§c§d"),
  (0x24d4, "e§f§g§h§i§j§k§l§m§n§o§p§q§r§s§t§u§v§w§x§y§z§0"), (0x2a0c, "∫∫∫∫"),
  (0x2a74, "::=§==§==="), (0x2adc, "⫝̸"),
  (0x2c00, "ⰰ§ⰱ§ⰲ§ⰳ§ⰴ§ⰵ§ⰶ§ⰷ§ⰸ§ⰹ§ⰺ§ⰻ§ⰼ§ⰽ§ⰾ§ⰿ§ⱀ§ⱁ§ⱂ§ⱃ§ⱄ§ⱅ§ⱆ§ⱇ§ⱈ§ⱉ§ⱊ§ⱋ§ⱌ§ⱍ§ⱎ§ⱏ§ⱐ§ⱑ§ⱒ§ⱓ§ⱔ§ⱕ"),
  (0x2c26, "ⱖ§ⱗ§ⱘ§ⱙ§ⱚ§ⱛ§ⱜ§ⱝ§ⱞ§ⱟ"), (0x2c60, "ⱡ§§ɫ§ᵽ§ɽ§§§ⱨ§§ⱪ§§ⱬ§§ɑ§ɱ§ɐ§ɒ§§ⱳ§§§ⱶ"),
  (0x2c7e, "ȿ§ɀ§ⲁ§§ⲃ§§ⲅ§§ⲇ§§ⲉ§§ⲋ§§ⲍ§§ⲏ§§ⲑ§§ⲓ§§ⲕ§§ⲗ§§ⲙ§§ⲛ§§ⲝ§§ⲟ§§ⲡ§§ⲣ§§ⲥ§§ⲧ§§ⲩ§§ⲫ§§ⲭ§§ⲯ"),
  (0x2cb0, "ⲱ§§ⲳ§§ⲵ§§ⲷ§§ⲹ§§ⲻ§§ⲽ§§ⲿ§§ⳁ§§ⳃ§§ⳅ§§ⳇ§§ⳉ§§ⳋ§§ⳍ§§ⳏ§§ⳑ§§ⳓ§§ⳕ§§ⳗ§§ⳙ§§ⳛ§§ⳝ§§ⳟ§§ⳡ§§ⳣ"),
  (0x2ceb, "ⳬ§§ⳮ"), (0x2cf2, "ⳳ"), (0x2e9f, "母"), (0x2ef3, "龟"),
  (0x2f00, "一§丨§丶§丿§乙§亅§二§亠§人§儿§入§八§冂§冖§冫§几§凵§刀§力§勹§匕§匚§匸§十§卜§卩§厂§厶§又§口§囗§土§士§夂§夊§夕§大§女"),
  (0x2f26, "子§宀§寸§小§尢§尸§屮§山§巛§工§己§巾§干§幺§广§廴§廾§弋§弓§彐§彡§彳§心§戈§戶§手§支§攴§文§斗§斤§方§无§日§曰§月§木§欠"),
  (0x2f4c, "止§歹§殳§毋§比§毛§氏§气§水§火§爪§父§爻§爿§片§牙§牛§犬§玄§玉§瓜§瓦§甘§生§用§田§疋§疒§癶§白§皮§皿§目§矛§矢§石§示§禸"),
  (0x2f72, "禾§穴§立§竹§米§糸§缶§网§羊§羽§老§而§耒§耳§聿§肉§臣§自§至§臼§舌§舛§舟§艮§色§艸§虍§虫§血§行§衣§襾§見§角§言§谷§豆§豕"),
  (0x2f98, "豸§貝§赤§走§足§身§車§辛§辰§辵§邑§酉§釆§里§金§長§門§阜§隶§隹§雨§靑§非§面§革§韋§韭§音§頁§風§飛§食§首§香§馬§骨§高§髟"),
  (0x2fbe, "鬥§鬯§鬲§鬼§魚§鳥§鹵§鹿§麥§麻§黃§黍§黑§黹§黽§鼎§鼓§鼠§鼻§齊§齒§龍§龜§龠"), (0x3000, " "), (0x3036, "〒§§十§卄§卅"),
  (0x309b, " ゙§ ゚§§§より"), (0x30ff, "コト"),
  (0x3131, "ᄀ§ᄁ§ᆪ§ᄂ§ᆬ§ᆭ§ᄃ§ᄄ§ᄅ§ᆰ§ᆱ§ᆲ§ᆳ§ᆴ§ᆵ§ᄚ§ᄆ§ᄇ§ᄈ§ᄡ§ᄉ§ᄊ§ᄋ§ᄌ§ᄍ§ᄎ§ᄏ§ᄐ§ᄑ§ᄒ§ᅡ§ᅢ§ᅣ§ᅤ§ᅥ§ᅦ§ᅧ§ᅨ"),
  (0x3157, "ᅩ§ᅪ§ᅫ§ᅬ§ᅭ§ᅮ§ᅯ§ᅰ§ᅱ§ᅲ§ᅳ§ᅴ§ᅵ§ᅠ§ᄔ§ᄕ§ᇇ§ᇈ§ᇌ§ᇎ§ᇓ§ᇗ§ᇙ§ᄜ§ᇝ§ᇟ§ᄝ§ᄞ§ᄠ§ᄢ§ᄣ§ᄧ§ᄩ§ᄫ§ᄬ§ᄭ§ᄮ§ᄯ"),
  (0x317d, "ᄲ§ᄶ§ᅀ§ᅇ§ᅌ§ᇱ§ᇲ§ᅗ§ᅘ§ᅙ§ᆄ§ᆅ§ᆈ§ᆑ§ᆒ§ᆔ§ᆞ§ᆡ"), (0x3192, "一§二§三§四§上§中§下§甲§乙§丙§丁§天§地§人"),
  (0x3200, "(ᄀ)§(ᄂ)§(ᄃ)§(ᄅ)§(ᄆ)§(ᄇ)§(ᄉ)§(ᄋ)§(ᄌ)§(ᄎ)§(ᄏ)§(ᄐ)§(ᄑ)§(ᄒ)§(가)§(나)§(다)§(라)§(마)"),
  (0x3213, "(바)§(사)§(아)§(자)§(차)§(카)§(타)§(파)§(하)§(주)"),
  (0x3220, "(一)§(二)§(三)§(四)§(五)§(六)§(七)§(八)§(九)§(十)§(月)§(火)§(水)§(木)§(金)§(土)§(日)§(株)§(有)"),
  (0x3233, "(社)§(名)§(特)§(財)§(祝)§(労)§(代)§(呼)§(学)§(監)§(企)§(資)§(協)§(祭)§(休)§(自)§(至)"),
  (0x3251, "21§22§23§24§25§26§27§28§29§30§31§32§33§34§35§ᄀ§ᄂ§ᄃ§ᄅ§ᄆ§ᄇ§ᄉ§ᄋ§ᄌ§ᄎ§ᄏ§ᄐ§ᄑ§ᄒ§가§나"),
  (0x3270, "다§라§마§바§사§아§자§차§카§타§파§하"),
  (0x3280, "一§二§三§四§五§六§七§八§九§十§月§火§水§木§金§土§日§株§有§社§名§特§財§祝§労§秘§男§女§適§優§印§注§項§休§写§正§上§中"),
  (0x32a6, "下§左§右§医§宗§学§監§企§資§協§夜§36§37§38§39§40§41§42§43§44§45§46§47§48§49§50§1月§2月§3月"),
  (0x32c3, "4月§5月§6月§7月§8月§9月§10月§11月§12月"),
  (0x32d0, "ア§イ§ウ§エ§オ§カ§キ§ク§ケ§コ§サ§シ§ス§セ§ソ§タ§チ§ツ§テ§ト§ナ§ニ§ヌ§ネ§ノ§ハ§ヒ§フ§ヘ§ホ§マ§ミ§ム§メ§モ§ヤ§ユ§ヨ"),
  (0x32f6, "ラ§リ§ル§レ§ロ§ワ§ヰ§ヱ§ヲ§§アパート§アルファ§アンペア§アール§イニング§インチ§ウォン§エスクード§エーカー§オンス§オーム§カイリ"),
  (0x330c, "カラット§カロリー§ガロン§ガンマ§ギガ§ギニー§キュリー§ギルダー§キロ§キログラム§キロメートル§キロワット§グラム§グラムトン§クルゼイロ"),
  (0x331b, "クローネ§ケース§コルナ§コーポ§サイクル§サンチーム§シリング§センチ§セント§ダース§デシ§ドル§トン§ナノ§ノット§ハイツ§パーセント§パーツ"),
  (0x332d, "バーレル§ピアストル§ピクル§ピコ§ビル§ファラッド§フィート§ブッシェル§フラン§ヘクタール§ペソ§ペニヒ§ヘルツ§ペンス§ページ§ベータ§ポイント"),
  (0x333e, "ボルト§ホン§ポンド§ホール§ホーン§マイクロ§マイル§マッハ§マルク§マンション§ミクロン§ミリ§ミリバール§メガ§メガトン§メートル§ヤード§ヤール"),
  (0x3350, "ユアン§リットル§リラ§ルピー§ルーブル§レム§レントゲン§ワット§0点§1点§2点§3点§4点§5点§6点§7点§8点§9点§10点§11点§12点"),
  (0x3365, "13点§14点§15点§16点§17点§18点§19点§20点§21点§22点§23点§24点§hpa§da§au§bar§ov§pc"),
  (0x337b, "平成§昭和§大正§明治§株式会社§pa§na§μa§ma§ka§kb§mb§gb§cal§kcal§pf§nf§μf§μg§mg§kg§hz§khz"),
  (0x3392, "mhz§ghz§thz§μl§ml§dl§kl§fm§nm§μm§mm§cm§km§mm2§cm2§m2§km2§mm3§cm3§m3§km3§m∕s"),
  (0x33a8, "m∕s2§pa§kpa§mpa§gpa§rad§rad∕s§rad∕s2§ps§ns§μs§ms§pv§nv§μv§mv§kv§mv§pw§nw§μw"),
  (0x33bd, "mw§kw§mw§kω§mω§a.m.§bq§cc§cd§c∕kg§co.§db§gy§ha§hp§in§kk§km§kt§lm§ln§log§lx"),
  (0x33d4, "mb§mil§mol§ph§p.m.§ppm§pr§sr§sv§wb§§§1日§2日§3日§4日§5日§6日§7日§8日§9日§10日§11日§12日"),
  (0x33ec, "13日§14日§15日§16日§17日§18日§19日§20日§21日§22日§23日§24日§25日§26日§27日§28日§29日§30日§31日"),
  (0xa640, "ꙁ§§ꙃ§§ꙅ§§ꙇ§§ꙉ§§ꙋ§§ꙍ§§ꙏ§§ꙑ§§ꙓ§§ꙕ§§ꙗ§§ꙙ§§ꙛ§§ꙝ§§ꙟ§§ꙡ§§ꙣ§§ꙥ§§ꙧ§§ꙩ§§ꙫ§§ꙭ"),
  (0xa680, "ꚁ§§ꚃ§§ꚅ§§ꚇ§§ꚉ§§ꚋ§§ꚍ§§ꚏ§§ꚑ§§ꚓ§§ꚕ§§ꚗ§§ꚙ§§ꚛ"), (0xa722, "ꜣ§§ꜥ§§ꜧ§§ꜩ§§ꜫ§§ꜭ§§ꜯ"),
  (0xa732, "ꜳ§§ꜵ§§ꜷ§§ꜹ§§ꜻ§§ꜽ§§ꜿ§§ꝁ§§ꝃ§§ꝅ§§ꝇ§§ꝉ§§ꝋ§§ꝍ§§ꝏ§§ꝑ§§ꝓ§§ꝕ§§ꝗ§§ꝙ§§ꝛ§§ꝝ§§ꝟ§§ꝡ§§ꝣ§§ꝥ"),
  (0xa766, "ꝧ§§ꝩ§§ꝫ§§ꝭ§§ꝯ"), (0xa779, "ꝺ§§ꝼ§§ᵹ§ꝿ§§ꞁ§§ꞃ§§ꞅ§§ꞇ"), (0xa78b, "ꞌ§§ɥ§§§ꞑ§§ꞓ"),
  (0xa796, "ꞗ§§ꞙ§§ꞛ§§ꞝ§§ꞟ§§ꞡ§§ꞣ§§ꞥ§§ꞧ§§ꞩ§§ɦ§ɜ§ɡ§ɬ§ɪ§§ʞ§ʇ§ʝ§ꭓ§ꞵ§§ꞷ§§ꞹ§§ꞻ§§ꞽ§§ꞿ§§ꟁ§§ꟃ§§ꞔ§ʂ"),
  (0xa7c6, "ᶎ§ꟈ§§ꟊ"), (0xa7d0, "ꟑ"), (0xa7d6, "ꟗ§§ꟙ"), (0xa7f5, "ꟶ"),
  (0xf900, "豈§更§車§賈§滑§串§句§龜§龜§契§金§喇§奈§懶§癩§羅§蘿§螺§裸§邏§樂§洛§烙§珞§落§酪§駱§亂§卵§欄§爛§蘭§鸞§嵐§濫§藍§襤§拉"),
  (0xf926, "臘§蠟§廊§朗§浪§狼§郎§來§冷§勞§擄§櫓§爐§盧§老§蘆§虜§路§露§魯§鷺§碌§祿§綠§菉§錄§鹿§論§壟§弄§籠§聾§牢§磊§賂§雷§壘§屢"),
  (0xf94c, "樓§淚§漏§累§縷§陋§勒§肋§凜§凌§稜§綾§菱§陵§讀§拏§樂§諾§丹§寧§怒§率§異§北§磻§便§復§不§泌§數§索§參§塞§省§葉§說§殺§辰"),
  (0xf972, "沈§拾§若§掠§略§亮§兩§凉§梁§糧§良§諒§量§勵§呂§女§廬§旅§濾§礪§閭§驪§麗§黎§力§曆§歷§轢§年§憐§戀§撚§漣§煉§璉§秊§練§聯"),
  (0xf998, "輦§蓮§連§鍊§列§劣§咽§烈§裂§說§廉§念§捻§殮§簾§獵§令§囹§寧§嶺§怜§玲§瑩§羚§聆§鈴§零§靈§領§例§禮§醴§隸§惡§了§僚§寮§尿"),
  (0xf9be, "料§樂§燎§療§蓼§遼§龍§暈§阮§劉§杻§柳§流§溜§琉§留§硫§紐§類§六§戮§陸§倫§崙§淪§輪§律§慄§栗§率§隆§利§吏§履§易§李§梨§泥"),
  (0xf9e4, "理§痢§罹§裏§裡§里§離§匿§溺§吝§燐§璘§藺§隣§鱗§麟§林§淋§臨§立§笠§粒§狀§炙§識§什§茶§刺§切§度§拓§糖§宅§洞§暴§輻§行§降"),
  (0xfa0a, "見§廓§兀§嗀§§§塚§§晴§§§凞§猪§益§礼§神§祥§福§靖§精§羽§§蘒§§諸§§§逸§都"),
  (0xfa2a, "飯§飼§館§鶴§§§侮§僧§免§勉§勤§卑§喝§嘆§器§塀§墨§層§屮§悔§慨§憎§懲§敏§既§暑§梅§海§渚§漢§煮§爫§琢§碑§社§祉§祈§祐§祖"),
  (0xfa51, "祝§禍§禎§穀§突§節§練§縉§繁§署§者§臭§艹§艹§著§褐§視§謁§謹§賓§贈§辶§逸§難§響§頻"),
  (0xfb00, "ff§fi§fl§ffi§ffl§st§st"), (0xfb13, "մն§մե§մի§վն§մխ"),
  (0xfb1d, "יִ§§ײַ§ע§א§ד§ה§כ§ל§ם§ר§ת§+§שׁ§שׂ§שּׁ§שּׂ§אַ§אָ§אּ§בּ§גּ§דּ§הּ§וּ§זּ§§טּ§יּ"),
  (0xfb3a, "ךּ§כּ§לּ§§מּ§§נּ§סּ§§ףּ§פּ§§צּ§קּ§רּ§שּ§תּ§וֹ§בֿ§כֿ§פֿ§אל§ٱ§ٱ§ٻ§ٻ§ٻ§ٻ§پ§پ§پ"),
  (0xfb59, "پ§ڀ§ڀ§ڀ§ڀ§ٺ§ٺ§ٺ§ٺ§ٿ§ٿ§ٿ§ٿ§ٹ§ٹ§ٹ§ٹ§ڤ§ڤ§ڤ§ڤ§ڦ§ڦ§ڦ§ڦ§ڄ§ڄ§ڄ§ڄ§ڃ§ڃ§ڃ§ڃ§چ§چ§چ§چ§ڇ"),
  (0xfb7f, "ڇ§ڇ§ڇ§ڍ§ڍ§ڌ§ڌ§ڎ§ڎ§ڈ§ڈ§ژ§ژ§ڑ§ڑ§ک§ک§ک§ک§گ§گ§گ§گ§ڳ§ڳ§ڳ§ڳ§ڱ§ڱ§ڱ§ڱ§ں§ں§ڻ§ڻ§ڻ§ڻ§ۀ"),
  (0xfba5, "ۀ§ہ§ہ§ہ§ہ§ھ§ھ§ھ§ھ§ے§ے§ۓ§ۓ"),
  (0xfbd3, "ڭ§ڭ§ڭ§ڭ§ۇ§ۇ§ۆ§ۆ§ۈ§ۈ§ۇٴ§ۋ§ۋ§ۅ§ۅ§ۉ§ۉ§ې§ې§ې§ې§ى§ى§ئا§ئا§ئە§ئە§ئو§ئو§ئۇ§ئۇ§ئۆ§ئۆ"),
  (0xfbf4, "ئۈ§ئۈ§ئې§ئې§ئې§ئى§ئى§ئى§ی§ی§ی§ی§ئج§ئح§ئم§ئى§ئي§بج§بح§بخ§بم§بى§بي§تج§تح§تخ§تم"),
  (0xfc0f, "تى§تي§ثج§ثم§ثى§ثي§جح§جم§حج§حم§خج§خح§خم§سج§سح§سخ§سم§صح§صم§ضج§ضح§ضخ§ضم§طح§طم"),
  (0xfc28, "ظم§عج§عم§غج§غم§فج§فح§فخ§فم§فى§في§قح§قم§قى§قي§كا§كج§كح§كخ§كل§كم§كى§كي§لج§لح"),
  (0xfc41, "لخ§لم§لى§لي§مج§مح§مخ§مم§مى§مي§نج§نح§نخ§نم§نى§ني§هج§هم§هى§هي§يج§يح§يخ§يم§يى"),
  (0xfc5a, "يي§ذٰ§رٰ§ىٰ§ ٌّ§ ٍّ§ َّ§ ُّ§ ِّ§ ّٰ§ئر§ئز§ئم§ئن§ئى§ئي§بر§بز§بم§بن§بى§بي§تر"),
  (0xfc71, "تز§تم§تن§تى§تي§ثر§ثز§ثم§ثن§ثى§ثي§فى§في§قى§قي§كا§كل§كم§كى§كي§لم§لى§لي§ما§مم"),
  (0xfc8a, "نر§نز§نم§نن§نى§ني§ىٰ§ير§يز§يم§ين§يى§يي§ئج§ئح§ئخ§ئم§ئه§بج§بح§بخ§بم§به§تج§تح"),
  (0xfca3, "تخ§تم§ته§ثم§جح§جم§حج§حم§خج§خم§سج§سح§سخ§سم§صح§صخ§صم§ضج§ضح§ضخ§ضم§طح§ظم§عج§عم"),
  (0xfcbc, "غج§غم§فج§فح§فخ§فم§قح§قم§كج§كح§كخ§كل§كم§لج§لح§لخ§لم§له§مج§مح§مخ§مم§نج§نح§نخ"),
  (0xfcd5, "نم§نه§هج§هم§هٰ§يج§يح§يخ§يم§يه§ئم§ئه§بم§به§تم§ته§ثم§ثه§سم§سه§شم§شه§كل§كم§لم"),
  (0xfcee, "نم§نه§يم§يه§ـَّ§ـُّ§ـِّ§طى§طي§عى§عي§غى§غي§سى§سي§شى§شي§حى§حي§جى§جي§خى§خي§صى"),
  (0xfd06, "صي§ضى§ضي§شج§شح§شخ§شم§شر§سر§صر§ضر§طى§طي§عى§عي§غى§غي§سى§سي§شى§شي§حى§حي§جى§جي"),
  (0xfd1f, "خى§خي§صى§صي§ضى§ضي§شج§شح§شخ§شم§شر§سر§صر§ضر§شج§شح§شخ§شم§سه§شه§طم§سج§سح§سخ§شج"),
  (0xfd38, "شح§شخ§طم§ظم§اً§اً"),
  (0xfd50, "تجم§تحج§تحج§تحم§تخم§تمج§تمح§تمخ§جمح§جمح§حمي§حمى§سحج§سجح§سجى§سمح§سمح§سمج§سمم"),
  (0xfd63, "سمم§صحح§صحح§صمم§شحم§شحم§شجي§شمخ§شمخ§شمم§شمم§ضحى§ضخم§ضخم§طمح§طمح§طمم§طمي§عجم"),
  (0xfd76, "عمم§عمم§عمى§غمم§غمي§غمى§فخم§فخم§قمح§قمم§لحم§لحي§لحى§لجج§لجج§لخم§لخم§لمح§لمح"),
  (0xfd89, "محج§محم§محي§مجح§مجم§مخج§مخم§§§مجخ§همج§همم§نحم§نحى§نجم§نجم§نجى§نمي§نمى§يمم"),
  (0xfd9d, "يمم§بخي§تجي§تجى§تخي§تخى§تمي§تمى§جمي§جحى§جمى§سخى§صحي§شحي§ضحي§لجي§لمي§يحي§يجي"),
  (0xfdb0, "يمي§ممي§قمي§نحي§قمح§لحم§عمي§كمي§نجح§مخي§لجم§كمم§لجم§نجح§جحي§حجي§مجي§فمي§بحي"),
  (0xfdc3, "كمم§عجم§صمم§سخي§نجي"),
  (0xfdf0, "صلے§قلے§الله§اكبر§محمد§صلعم§رسول§عليه§وسلم§صلى§صلى الله عليه وسلم§جل جلاله"),
  (0xfdfc, "ریال"), (0xfe30, "..§—§–§_§_§(§)§\x7b§\x7d§〔§〕§【§】§《§》§〈§〉§「§」§『§』"),
  (0xfe49, " ̅§ ̅§ ̅§ ̅§_§_§_§,§、§.§§;§:§?§!§—§(§)§\x7b§\x7d§〔§〕§#§&§*§+§-§<§>§=§§\\§$§%§@"),
  (0xfe70, " ً§ـً§ ٌ§§ ٍ§§ َ§ـَ§ ُ§ـُ§ ِ§ـِ§ ّ§ـّ§ ْ§ـْ§ء§آ§آ§أ§أ§ؤ§ؤ§إ§إ§ئ§ئ§ئ§ئ§ا§ا§ب"),
  (0xfe90, "ب§ب§ب§ة§ة§ت§ت§ت§ت§ث§ث§ث§ث§ج§ج§ج§ج§ح§ح§ح§ح§خ§خ§خ§خ§د§د§ذ§ذ§ر§ر§ز§ز§س§س§س§س§ش"),
  (0xfeb6, "ش§ش§ش§ص§ص§ص§ص§ض§ض§ض§ض§ط§ط§ط§ط§ظ§ظ§ظ§ظ§ع§ع§ع§ع§غ§غ§غ§غ§ف§ف§ف§ف§ق§ق§ق§ق§ك§ك§ك"),
  (0xfedc, "ك§ل§ل§ل§ل§م§م§م§م§ن§ن§ن§ن§ه§ه§ه§ه§و§و§ى§ى§ي§ي§ي§ي§لآ§لآ§لأ§لأ§لإ§لإ§لا§لا"),
  (0xff5f, "⦅§⦆§。§「§」§、§・§ヲ§ァ§ィ§ゥ§ェ§ォ§ャ§ュ§ョ§ッ§ー§ア§イ§ウ§エ§オ§カ§キ§ク§ケ§コ§サ§シ§ス§セ§ソ§タ§チ§ツ§テ§ト"),
  (0xff85, "ナ§ニ§ヌ§ネ§ノ§ハ§ヒ§フ§ヘ§ホ§マ§ミ§ム§メ§モ§ヤ§ユ§ヨ§ラ§リ§ル§レ§ロ§ワ§ン§゙§゚§ᅠ§ᄀ§ᄁ§ᆪ§ᄂ§ᆬ§ᆭ§ᄃ§ᄄ§ᄅ§ᆰ"),
  (0xffab, "ᆱ§ᆲ§ᆳ§ᆴ§ᆵ§ᄚ§ᄆ§ᄇ§ᄈ§ᄡ§ᄉ§ᄊ§ᄋ§ᄌ§ᄍ§ᄎ§ᄏ§ᄐ§ᄑ§ᄒ"),
  (0xffc2, "ᅡ§ᅢ§ᅣ§ᅤ§ᅥ§ᅦ§§§ᅧ§ᅨ§ᅩ§ᅪ§ᅫ§ᅬ§§§ᅭ§ᅮ§ᅯ§ᅰ§ᅱ§ᅲ§§§ᅳ§ᅴ§ᅵ"),
  (0xffe0, "¢§£§¬§ ̄§¦§¥§₩§§│§←§↑§→§↓§■§○"),
  (0x10400, "𐐨§𐐩§𐐪§𐐫§𐐬§𐐭§𐐮§𐐯§𐐰§𐐱§𐐲§𐐳§𐐴§𐐵§𐐶§𐐷§𐐸§𐐹§𐐺§𐐻§𐐼§𐐽§𐐾§𐐿§𐑀§𐑁§𐑂§𐑃§𐑄§𐑅§𐑆§𐑇§𐑈§𐑉§𐑊§𐑋§𐑌§𐑍"),
  (0x10426, "𐑎§𐑏"),
  (0x104b0, "𐓘§𐓙§𐓚§𐓛§𐓜§𐓝§𐓞§𐓟§𐓠§𐓡§𐓢§𐓣§𐓤§𐓥§𐓦§𐓧§𐓨§𐓩§𐓪§𐓫§𐓬§𐓭§𐓮§𐓯§𐓰§𐓱§𐓲§𐓳§𐓴§𐓵§𐓶§𐓷§𐓸§𐓹§𐓺§𐓻"),
  (0x10570, "𐖗§𐖘§𐖙§𐖚§𐖛§𐖜§𐖝§𐖞§𐖟§𐖠§𐖡§§𐖣§𐖤§𐖥§𐖦§𐖧§𐖨§𐖩§𐖪§𐖫§𐖬§𐖭§𐖮§𐖯§𐖰§𐖱§§𐖳§𐖴§𐖵§𐖶§𐖷§𐖸§𐖹§§𐖻§𐖼"),
  (0x10c80, "𐳀§𐳁§𐳂§𐳃§𐳄§𐳅§𐳆§𐳇§𐳈§𐳉§𐳊§𐳋§𐳌§𐳍§𐳎§𐳏§𐳐§𐳑§𐳒§𐳓§𐳔§𐳕§𐳖§𐳗§𐳘§𐳙§𐳚§𐳛§𐳜§𐳝§𐳞§𐳟§𐳠§𐳡§𐳢§𐳣§𐳤§𐳥"),
  (0x10ca6, "𐳦§𐳧§𐳨§𐳩§𐳪§𐳫§𐳬§𐳭§𐳮§𐳯§𐳰§𐳱§𐳲"),
  (0x118a0, "𑣀§𑣁§𑣂§𑣃§𑣄§𑣅§𑣆§𑣇§𑣈§𑣉§𑣊§𑣋§𑣌§𑣍§𑣎§𑣏§𑣐§𑣑§𑣒§𑣓§𑣔§𑣕§𑣖§𑣗§𑣘§𑣙§𑣚§𑣛§𑣜§𑣝§𑣞§𑣟"),
  (0x16e40, "𖹠§𖹡§𖹢§𖹣§𖹤§𖹥§𖹦§𖹧§𖹨§𖹩§𖹪§𖹫§𖹬§𖹭§𖹮§𖹯§𖹰§𖹱§𖹲§𖹳§𖹴§𖹵§𖹶§𖹷§𖹸§𖹹§𖹺§𖹻§𖹼§𖹽§𖹾§𖹿"),
  (0x1d15e, "𝅗𝅥§𝅘𝅥§𝅘𝅥𝅮§𝅘𝅥𝅯§𝅘𝅥𝅰§𝅘𝅥𝅱§𝅘𝅥𝅲"), (0x1d1bb, "𝆹𝅥§𝆺𝅥§𝆹𝅥𝅮§𝆺𝅥𝅮§𝆹𝅥𝅯§𝆺𝅥𝅯"),
  (0x1d6a8, "α§β§γ§δ§ε§ζ§η§θ§ι§κ§λ§μ§ν§ξ§ο§π§ρ§θ§σ§τ§υ§φ§χ§ψ§ω§∇§α§β§γ§δ§ε§ζ§η§θ§ι§κ§λ§μ"),
  (0x1d6ce, "ν§ξ§ο§π§ρ§σ§σ§τ§υ§φ§χ§ψ§ω§∂§ε§θ§κ§φ§ρ§π§α§β§γ§δ§ε§ζ§η§θ§ι§κ§λ§μ§ν§ξ§ο§π§ρ§θ"),
  (0x1d6f4, "σ§τ§υ§φ§χ§ψ§ω§∇§α§β§γ§δ§ε§ζ§η§θ§ι§κ§λ§μ§ν§ξ§ο§π§ρ§σ§σ§τ§υ§φ§χ§ψ§ω§∂§ε§θ§κ§φ"),
  (0x1d71a, "ρ§π§α§β§γ§δ§ε§ζ§η§θ§ι§κ§λ§μ§ν§ξ§ο§π§ρ§θ§σ§τ§υ§φ§χ§ψ§ω§∇§α§β§γ§δ§ε§ζ§η§θ§ι§κ"),
  (0x1d740, "λ§μ§ν§ξ§ο§π§ρ§σ§σ§τ§υ§φ§χ§ψ§ω§∂§ε§θ§κ§φ§ρ§π§α§β§γ§δ§ε§ζ§η§θ§ι§κ§λ§μ§ν§ξ§ο§π"),
  (0x1d766, "ρ§θ§σ§τ§υ§φ§χ§ψ§ω§∇§α§β§γ§δ§ε§ζ§η§θ§ι§κ§λ§μ§ν§ξ§ο§π§ρ§σ§σ§τ§υ§φ§χ§ψ§ω§∂§ε§θ"),
  (0x1d78c, "κ§φ§ρ§π§α§β§γ§δ§ε§ζ§η§θ§ι§κ§λ§μ§ν§ξ§ο§π§ρ§θ§σ§τ§υ§φ§χ§ψ§ω§∇§α§β§γ§δ§ε§ζ§η§θ"),
  (0x1d7b2, "ι§κ§λ§μ§ν§ξ§ο§π§ρ§σ§σ§τ§υ§φ§χ§ψ§ω§∂§ε§θ§κ§φ§ρ§π"),
  (0x1e900, "𞤢§𞤣§𞤤§𞤥§𞤦§𞤧§𞤨§𞤩§𞤪§𞤫§𞤬§𞤭§𞤮§𞤯§𞤰§𞤱§𞤲§𞤳§𞤴§𞤵§𞤶§𞤷§𞤸§𞤹§𞤺§𞤻§𞤼§𞤽§𞤾§𞤿§𞥀§𞥁§𞥂§𞥃"),
  (0x2f800, "丽§丸§乁§𠄢§你§侮§侻§倂§偺§備§僧§像§㒞§𠘺§免§兔§兤§具§𠔜§㒹§內§再§𠕋§冗§冤§仌§冬§况§𩇟§凵§刃§㓟§刻§剆§割§剷§㔕§勇"),
  (0x2f826, "勉§勤§勺§包§匆§北§卉§卑§博§即§卽§卿§卿§卿§𠨬§灰§及§叟§𠭣§叫§叱§吆§咞§吸§呈§周§咢§哶§唐§啓§啣§善§善§喙§喫§喳§嗂§圖"),
  (0x2f84c, "嘆§圗§噑§噴§切§壮§城§埴§堍§型§堲§報§墬§𡓤§売§壷§夆§多§夢§奢§𡚨§𡛪§姬§娛§娧§姘§婦§㛮§𡍪§嬈§嬾§嬾§𡧈§寃§寘§寧§寳§𡬘"),
  (0x2f872, "寿§将§弳§尢§㞁§屠§屮§峀§岍§𡷤§嵃§𡷦§嵮§嵫§嵼§巡§巢§㠯§巽§帨§帽§幩§㡢§𢆃§㡼§庰§庳§庶§廊§𪎒§廾§𢌱§𢌱§舁§弢§弢§㣇§𣊸"),
  (0x2f898, "𦇚§形§彫§㣣§徚§忍§志§忹§悁§㤺§㤜§悔§𢛔§惇§慈§慌§慎§慌§慺§憎§憲§憤§憯§懞§懲§懶§成§戛§扝§抱§拔§捐§𢬌§挽§拼§捨§掃§揤"),
  (0x2f8be, "𢯱§搢§揅§掩§㨮§摩§摾§撝§摷§㩬§敏§敬§𣀊§旣§書§晉§㬙§暑§㬈§㫤§冒§冕§最§暜§肭§䏙§朗§望§朡§杞§杓§𣏃§㭉§柺§枅§桒§梅§𣑭"),
  (0x2f8e4, "梎§栟§椔§㮝§楂§榣§槪§檨§𣚣§櫛§㰘§次§𣢧§歔§㱎§歲§殟§殺§殻§𣪍§𡴋§𣫺§汎§𣲼§沿§泍§汧§洖§派§海§流§浩§浸§涅§𣴞§洴§港§湮"),
  (0x2f90a, "㴳§滋§滇§𣻑§淹§潮§𣽞§𣾎§濆§瀹§瀞§瀛§㶖§灊§災§灷§炭§𠔥§煅§𤉣§熜§䎫§爨§爵§牐§𤘈§犀§犕§𤜵§𤠔§獺§王§㺬§玥§㺸§㺸§瑇§瑜"),
  (0x2f930, "瑱§璅§瓊§㼛§甤§𤰶§甾§𤲒§異§𢆟§瘐§𤾡§𤾸§𥁄§㿼§䀈§直§𥃳§𥃲§𥄙§𥄳§眞§真§真§睊§䀹§瞋§䁆§䂖§𥐝§硎§碌§磌§䃣§𥘦§祖§𥚚§𥛅"),
  (0x2f956, "福§秫§䄯§穀§穊§穏§𥥼§𥪧§𥪧§窮§䈂§𥮫§篆§築§䈧§𥲀§糒§䊠§糨§糣§紀§𥾆§絣§䌁§緇§縂§繅§䌴§𦈨§𦉇§䍙§𦋙§罺§𦌾§羕§翺§者§𦓚"),
  (0x2f97c, "𦔣§聠§𦖨§聰§𣍟§䏕§育§脃§䐋§脾§媵§𦞧§𦞵§𣎓§𣎜§舁§舄§辞§䑫§芑§芋§芝§劳§花§芳§芽§苦§𦬼§若§茝§荣§莭§茣§莽§菧§著§荓§菊"),
  (0x2f9a2, "菌§菜§𦰶§𦵫§𦳕§䔫§蓱§蓳§蔖§𧏊§蕤§𦼬§䕝§䕡§𦾱§𧃒§䕫§虐§虜§虧§虩§蚩§蚈§蜎§蛢§蝹§蜨§蝫§螆§䵗§蟡§蠁§䗹§衠§衣§𧙧§裗§裞"),
  (0x2f9c8, "䘵§裺§㒻§𧢮§𧥦§䚾§䛇§誠§諭§變§豕§𧲨§貫§賁§贛§起§𧼯§𠠄§跋§趼§跰§𠣞§軔§輸§𨗒§𨗭§邔§郱§鄑§𨜮§鄛§鈸§鋗§鋘§鉼§鏹§鐕§𨯺"),
  (0x2f9ee, "開§䦕§閷§𨵷§䧦§雃§嶲§霣§𩅅§𩈚§䩮§䩶§韠§𩐊§䪲§𩒖§頋§頋§頩§𩖶§飢§䬳§餩§馧§駂§駾§䯎§𩬰§鬒§鱀§鳽§䳎§䳭§鵧§𪃎§䳸§𪄅§𪈎"),
  (0x2fa14, "𪊑§麻§䵖§黹§黾§鼅§鼏§鼖§鼻§𪘀")]

def maxRun : Nat := 128

def plainForm? (n : Nat) : Option (List Char) :=
  plainRuns.findSome? fun (first, forms) =>
    if first ≤ n && n < first + maxRun then
      match (forms.toList.splitOn formMark)[n - first]? with
      | some [] => none
      | form => form
    else none

/-- Places among the letters of mathematics that are empty, as the letter stands elsewhere. -/
def emptyPlaces : List Nat := [
  0x1d455, 0x1d49d, 0x1d4a0, 0x1d4a1, 0x1d4a3, 0x1d4a4, 0x1d4a7, 0x1d4a8, 0x1d4ad, 0x1d4ba, 0x1d4bc,
  0x1d4c1, 0x1d4c4, 0x1d506, 0x1d50b, 0x1d50c, 0x1d515, 0x1d51d, 0x1d53a, 0x1d53f, 0x1d545, 0x1d547,
  0x1d548, 0x1d549, 0x1d551]

/-- The plain form of a character. The wide forms of ASCII and the letters and digits of mathematics
follow the order of those they stand for. -/
def plain (c : Char) : List Char :=
  let n := c.toNat
  if n < 0x80 then [c.toLower]
  else if 0xFF01 ≤ n && n ≤ 0xFF5E then [(Char.ofNat (n - 0xFEE0)).toLower]
  else if 0x1D400 ≤ n && n ≤ 0x1D6A3 then
    if emptyPlaces.contains n then [c] else [Char.ofNat (97 + (n - 0x1D400) % 26)]
  else if 0x1D7CE ≤ n && n ≤ 0x1D7FF then [Char.ofNat (48 + (n - 0x1D7CE) % 10)]
  else (plainForm? n).getD [c]

end Dialogue.Text
