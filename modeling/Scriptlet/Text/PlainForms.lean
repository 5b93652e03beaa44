/-
# Letters that count as the same in a domain name

Capitals and small letters are the same in a domain name, and so are the forms
of a character that differ only in style or width.  The table gives the plainest
form of each (Unicode 3.2): the characters that it is made of, in small letters.
-/

namespace Scriptlet.Text

/-- Runs of characters that have a plainer form.  A run gives the number of its
first character and the forms, one to a line. -/
def plainForms : List (Nat × String) :=
  [(0x41, "a\nb\nc\nd\ne\nf\ng\nh\ni\nj\nk\nl\nm\nn\no\np\nq\nr\ns\nt\nu\nv"),
   (0x57, "w\nx\ny\nz"), (0xA0, " "), (0xA8, " \u0308"), (0xAA, "a"), (0xAF, " \u0304"),
   (0xB2, "2\n3\n \u0301\nμ"), (0xB8, " \u0327\n1\no"), (0xBC, "1⁄4\n1⁄2\n3⁄4"),
   (0xC0, "a\u0300\na\u0301\na\u0302\na\u0303\na\u0308\na\u030a\næ\nc\u0327"),
   (0xC8, "e\u0300\ne\u0301\ne\u0302\ne\u0308\ni\u0300\ni\u0301\ni\u0302"),
   (0xCF, "i\u0308\nð\nn\u0303\no\u0300\no\u0301\no\u0302\no\u0303\no\u0308"),
   (0xD8, "ø\nu\u0300\nu\u0301\nu\u0302\nu\u0308\ny\u0301\nþ\nss\na\u0300"),
   (0xE1, "a\u0301\na\u0302\na\u0303\na\u0308\na\u030a"),
   (0xE7, "c\u0327\ne\u0300\ne\u0301\ne\u0302\ne\u0308\ni\u0300\ni\u0301"),
   (0xEE, "i\u0302\ni\u0308"), (0xF1, "n\u0303\no\u0300\no\u0301\no\u0302\no\u0303\no\u0308"),
   (0xF9, "u\u0300\nu\u0301\nu\u0302\nu\u0308\ny\u0301"),
   (0xFF, "y\u0308\na\u0304\na\u0304\na\u0306\na\u0306\na\u0328\na\u0328"),
   (0x106, "c\u0301\nc\u0301\nc\u0302\nc\u0302\nc\u0307\nc\u0307\nc\u030c"),
   (0x10D, "c\u030c\nd\u030c\nd\u030c\nđ"),
   (0x112, "e\u0304\ne\u0304\ne\u0306\ne\u0306\ne\u0307\ne\u0307\ne\u0328"),
   (0x119, "e\u0328\ne\u030c\ne\u030c\ng\u0302\ng\u0302\ng\u0306\ng\u0306"),
   (0x120, "g\u0307\ng\u0307\ng\u0327\ng\u0327\nh\u0302\nh\u0302\nħ"),
   (0x128, "i\u0303\ni\u0303\ni\u0304\ni\u0304\ni\u0306\ni\u0306\ni\u0328"),
   (0x12F, "i\u0328\ni\u0307"), (0x132, "ij\nij\nj\u0302\nj\u0302\nk\u0327\nk\u0327"),
   (0x139, "l\u0301\nl\u0301\nl\u0327\nl\u0327\nl\u030c\nl\u030c\nl·\nl·\nł"),
   (0x143, "n\u0301\nn\u0301\nn\u0327\nn\u0327\nn\u030c\nn\u030c\nʼn\nŋ"),
   (0x14C, "o\u0304\no\u0304\no\u0306\no\u0306\no\u030b\no\u030b\nœ"),
   (0x154, "r\u0301\nr\u0301\nr\u0327\nr\u0327\nr\u030c\nr\u030c\ns\u0301"),
   (0x15B, "s\u0301\ns\u0302\ns\u0302\ns\u0327\ns\u0327\ns\u030c\ns\u030c"),
   (0x162, "t\u0327\nt\u0327\nt\u030c\nt\u030c\nŧ"),
   (0x168, "u\u0303\nu\u0303\nu\u0304\nu\u0304\nu\u0306\nu\u0306\nu\u030a"),
   (0x16F, "u\u030a\nu\u030b\nu\u030b\nu\u0328\nu\u0328\nw\u0302\nw\u0302"),
   (0x176, "y\u0302\ny\u0302\ny\u0308\nz\u0301\nz\u0301\nz\u0307\nz\u0307"),
   (0x17D, "z\u030c\nz\u030c\ns"), (0x181, "ɓ\nƃ"), (0x184, "ƅ"), (0x186, "ɔ\nƈ"),
   (0x189, "ɖ\nɗ\nƌ"), (0x18E, "ǝ\nə\nɛ\nƒ"), (0x193, "ɠ\nɣ"), (0x196, "ɩ\nɨ\nƙ"), (0x19C, "ɯ\nɲ"),
   (0x19F, "ɵ\no\u031b\no\u031b\nƣ"), (0x1A4, "ƥ"), (0x1A6, "ʀ\nƨ"), (0x1A9, "ʃ"), (0x1AC, "ƭ"),
   (0x1AE, "ʈ\nu\u031b\nu\u031b\nʊ\nʋ\nƴ"), (0x1B5, "ƶ"), (0x1B7, "ʒ\nƹ"), (0x1BC, "ƽ"),
   (0x1C4, "dz\u030c\ndz\u030c\ndz\u030c\nlj\nlj\nlj\nnj\nnj\nnj\na\u030c"),
   (0x1CE, "a\u030c\ni\u030c\ni\u030c\no\u030c\no\u030c\nu\u030c\nu\u030c"),
   (0x1D5, "u\u0308\u0304\nu\u0308\u0304\nu\u0308\u0301\nu\u0308\u0301"),
   (0x1D9, "u\u0308\u030c\nu\u0308\u030c\nu\u0308\u0300\nu\u0308\u0300"),
   (0x1DE, "a\u0308\u0304\na\u0308\u0304\na\u0307\u0304\na\u0307\u0304"),
   (0x1E2, "æ\u0304\næ\u0304\nǥ"), (0x1E6, "g\u030c\ng\u030c\nk\u030c\nk\u030c\no\u0328\no\u0328"),
   (0x1EC, "o\u0328\u0304\no\u0328\u0304\nʒ\u030c\nʒ\u030c\nj\u030c\ndz\ndz"),
   (0x1F3, "dz\ng\u0301\ng\u0301\nƕ\nƿ\nn\u0300\nn\u0300\na\u030a\u0301"),
   (0x1FB, "a\u030a\u0301\næ\u0301\næ\u0301\nø\u0301\nø\u0301\na\u030f"),
   (0x201, "a\u030f\na\u0311\na\u0311\ne\u030f\ne\u030f\ne\u0311\ne\u0311"),
   (0x208, "i\u030f\ni\u030f\ni\u0311\ni\u0311\no\u030f\no\u030f\no\u0311"),
   (0x20F, "o\u0311\nr\u030f\nr\u030f\nr\u0311\nr\u0311\nu\u030f\nu\u030f"),
   (0x216, "u\u0311\nu\u0311\ns\u0326\ns\u0326\nt\u0326\nt\u0326\nȝ"),
   (0x21E, "h\u030c\nh\u030c\nƞ"), (0x222, "ȣ"), (0x224, "ȥ"),
   (0x226, "a\u0307\na\u0307\ne\u0327\ne\u0327\no\u0308\u0304\no\u0308\u0304"),
   (0x22C, "o\u0303\u0304\no\u0303\u0304\no\u0307\no\u0307\no\u0307\u0304"),
   (0x231, "o\u0307\u0304\ny\u0304\ny\u0304"), (0x23A, "ⱥ\nȼ"), (0x23D, "ƚ\nⱦ"), (0x241, "ɂ"),
   (0x243, "ƀ\nʉ\nʌ\nɇ"), (0x248, "ɉ"), (0x24A, "ɋ"), (0x24C, "ɍ"), (0x24E, "ɏ"),
   (0x2B0, "h\nɦ\nj\nr\nɹ\nɻ\nʁ\nw\ny"),
   (0x2D8, " \u0306\n \u0307\n \u030a\n \u0328\n \u0303\n \u030b"), (0x2E0, "ɣ\nl\ns\nx\nʕ"),
   (0x340, "\u0300\n\u0301"), (0x343, "\u0313\n\u0308\u0301\nι"), (0x370, "ͱ"), (0x372, "ͳ"),
   (0x374, "ʹ"), (0x376, "ͷ"), (0x37A, " ι"), (0x37E, ";\nϳ"),
   (0x384, " \u0301\n \u0308\u0301\nα\u0301\n·\nε\u0301\nη\u0301\nι\u0301"), (0x38C, "ο\u0301"),
   (0x38E, "υ\u0301\nω\u0301\nι\u0308\u0301\nα\nβ\nγ\nδ\nε\nζ\nη\nθ\nι\nκ\nλ"),
   (0x39C, "μ\nν\nξ\nο\nπ\nρ"),
   (0x3A3, "σ\nτ\nυ\nφ\nχ\nψ\nω\nι\u0308\nυ\u0308\nα\u0301\nε\u0301\nη\u0301"),
   (0x3AF, "ι\u0301\nυ\u0308\u0301"), (0x3C2, "σ"),
   (0x3CA, "ι\u0308\nυ\u0308\nο\u0301\nυ\u0301\nω\u0301\nϗ\nβ\nθ\nυ\nυ\u0301"),
   (0x3D4, "υ\u0308\nφ\nπ"), (0x3D8, "ϙ"), (0x3DA, "ϛ"), (0x3DC, "ϝ"), (0x3DE, "ϟ"), (0x3E0, "ϡ"),
   (0x3E2, "ϣ"), (0x3E4, "ϥ"), (0x3E6, "ϧ"), (0x3E8, "ϩ"), (0x3EA, "ϫ"), (0x3EC, "ϭ"),
   (0x3EE, "ϯ"), (0x3F0, "κ\nρ\nσ"), (0x3F4, "θ\nε"), (0x3F7, "ϸ"), (0x3F9, "σ\nϻ"),
   (0x3FD, "ͻ\nͼ\nͽ\nе\u0300\nе\u0308\nђ\nг\u0301\nє\nѕ\nі\nі\u0308\nј\nљ\nњ"),
   (0x40B, "ћ\nк\u0301\nи\u0300\nу\u0306\nџ\nа\nб\nв\nг\nд\nе\nж\nз\nи"),
   (0x419, "и\u0306\nк\nл\nм\nн\nо\nп\nр\nс\nт\nу\nф\nх\nц\nч\nш\nщ\nъ\nы\nь"), (0x42D, "э\nю\nя"),
   (0x439, "и\u0306"), (0x450, "е\u0300\nе\u0308"), (0x453, "г\u0301"), (0x457, "і\u0308"),
   (0x45C, "к\u0301\nи\u0300\nу\u0306"), (0x460, "ѡ"), (0x462, "ѣ"), (0x464, "ѥ"), (0x466, "ѧ"),
   (0x468, "ѩ"), (0x46A, "ѫ"), (0x46C, "ѭ"), (0x46E, "ѯ"), (0x470, "ѱ"), (0x472, "ѳ"),
   (0x474, "ѵ"), (0x476, "ѵ\u030f\nѵ\u030f\nѹ"), (0x47A, "ѻ"), (0x47C, "ѽ"), (0x47E, "ѿ"),
   (0x480, "ҁ"), (0x48A, "ҋ"), (0x48C, "ҍ"), (0x48E, "ҏ"), (0x490, "ґ"), (0x492, "ғ"),
   (0x494, "ҕ"), (0x496, "җ"), (0x498, "ҙ"), (0x49A, "қ"), (0x49C, "ҝ"), (0x49E, "ҟ"),
   (0x4A0, "ҡ"), (0x4A2, "ң"), (0x4A4, "ҥ"), (0x4A6, "ҧ"), (0x4A8, "ҩ"), (0x4AA, "ҫ"),
   (0x4AC, "ҭ"), (0x4AE, "ү"), (0x4B0, "ұ"), (0x4B2, "ҳ"), (0x4B4, "ҵ"), (0x4B6, "ҷ"),
   (0x4B8, "ҹ"), (0x4BA, "һ"), (0x4BC, "ҽ"), (0x4BE, "ҿ"), (0x4C0, "ӏ\nж\u0306\nж\u0306\nӄ"),
   (0x4C5, "ӆ"), (0x4C7, "ӈ"), (0x4C9, "ӊ"), (0x4CB, "ӌ"), (0x4CD, "ӎ"),
   (0x4D0, "а\u0306\nа\u0306\nа\u0308\nа\u0308\nӕ"), (0x4D6, "е\u0306\nе\u0306\nә"),
   (0x4DA, "ә\u0308\nә\u0308\nж\u0308\nж\u0308\nз\u0308\nз\u0308\nӡ"),
   (0x4E2, "и\u0304\nи\u0304\nи\u0308\nи\u0308\nо\u0308\nо\u0308\nө"),
   (0x4EA, "ө\u0308\nө\u0308\nэ\u0308\nэ\u0308\nу\u0304\nу\u0304\nу\u0308"),
   (0x4F1, "у\u0308\nу\u030b\nу\u030b\nч\u0308\nч\u0308\nӷ"), (0x4F8, "ы\u0308\nы\u0308\nӻ"),
   (0x4FC, "ӽ"), (0x4FE, "ӿ"), (0x500, "ԁ"), (0x502, "ԃ"), (0x504, "ԅ"), (0x506, "ԇ"),
   (0x508, "ԉ"), (0x50A, "ԋ"), (0x50C, "ԍ"), (0x50E, "ԏ"), (0x510, "ԑ"), (0x512, "ԓ"),
   (0x514, "ԕ"), (0x516, "ԗ"), (0x518, "ԙ"), (0x51A, "ԛ"), (0x51C, "ԝ"), (0x51E, "ԟ"),
   (0x520, "ԡ"), (0x522, "ԣ"), (0x524, "ԥ"), (0x526, "ԧ"), (0x528, "ԩ"), (0x52A, "ԫ"),
   (0x52C, "ԭ"), (0x52E, "ԯ"),
   (0x531, "ա\nբ\nգ\nդ\nե\nզ\nէ\nը\nթ\nժ\nի\nլ\nխ\nծ\nկ\nհ\nձ\nղ\nճ\nմ\nյ\nն"),
   (0x547, "շ\nո\nչ\nպ\nջ\nռ\nս\nվ\nտ\nր\nց\nւ\nփ\nք\nօ\nֆ"), (0x587, "եւ"),
   (0x622, "\u0627\u0653\n\u0627\u0654\n\u0648\u0654\n\u0627\u0655"), (0x626, "\u064a\u0654"),
   (0x675, "\u0627\u0674\n\u0648\u0674\n\u06c7\u0674\n\u064a\u0674"), (0x6C0, "\u06d5\u0654"),
   (0x6C2, "\u06c1\u0654"), (0x6D3, "\u06d2\u0654"), (0x929, "न\u093c"), (0x931, "र\u093c"),
   (0x934, "ळ\u093c"), (0x958, "क\u093c\nख\u093c\nग\u093c\nज\u093c\nड\u093c\nढ\u093c\nफ\u093c"),
   (0x95F, "य\u093c"), (0x9CB, "\u09c7\u09be\n\u09c7\u09d7"), (0x9DC, "ড\u09bc\nঢ\u09bc"),
   (0x9DF, "য\u09bc"), (0xA33, "ਲ\u0a3c"), (0xA36, "ਸ\u0a3c"),
   (0xA59, "ਖ\u0a3c\nਗ\u0a3c\nਜ\u0a3c"), (0xA5E, "ਫ\u0a3c"), (0xB48, "\u0b47\u0b56"),
   (0xB4B, "\u0b47\u0b3e\n\u0b47\u0b57"), (0xB5C, "ଡ\u0b3c\nଢ\u0b3c"), (0xB94, "ஒ\u0bd7"),
   (0xBCA, "\u0bc6\u0bbe\n\u0bc7\u0bbe\n\u0bc6\u0bd7"), (0xC48, "\u0c46\u0c56"),
   (0xCC0, "\u0cbf\u0cd5"), (0xCC7, "\u0cc6\u0cd5\n\u0cc6\u0cd6"),
   (0xCCA, "\u0cc6\u0cc2\n\u0cc6\u0cc2\u0cd5"),
   (0xD4A, "\u0d46\u0d3e\n\u0d47\u0d3e\n\u0d46\u0d57"), (0xDDA, "\u0dd9\u0dca"),
   (0xDDC, "\u0dd9\u0dcf\n\u0dd9\u0dcf\u0dca\n\u0dd9\u0ddf"), (0xE33, "\u0e4dา"),
   (0xEB3, "\u0ecdາ"), (0xEDC, "ຫນ\nຫມ"), (0xF0C, "་"), (0xF43, "ག\u0fb7"), (0xF4D, "ཌ\u0fb7"),
   (0xF52, "ད\u0fb7"), (0xF57, "བ\u0fb7"), (0xF5C, "ཛ\u0fb7"), (0xF69, "ཀ\u0fb5"),
   (0xF73, "\u0f71\u0f72"),
   (0xF75, "\u0f71\u0f74\n\u0fb2\u0f80\n\u0fb2\u0f71\u0f80\n\u0fb3\u0f80"),
   (0xF79, "\u0fb3\u0f71\u0f80"), (0xF81, "\u0f71\u0f80"), (0xF93, "\u0f92\u0fb7"),
   (0xF9D, "\u0f9c\u0fb7"), (0xFA2, "\u0fa1\u0fb7"), (0xFA7, "\u0fa6\u0fb7"),
   (0xFAC, "\u0fab\u0fb7"), (0xFB9, "\u0f90\u0fb5"), (0x1026, "ဥ\u102e"),
   (0x10A0, "ⴀ\nⴁ\nⴂ\nⴃ\nⴄ\nⴅ\nⴆ\nⴇ\nⴈ\nⴉ\nⴊ\nⴋ\nⴌ\nⴍ\nⴎ\nⴏ\nⴐ\nⴑ\nⴒ\nⴓ\nⴔ\nⴕ"),
   (0x10B6, "ⴖ\nⴗ\nⴘ\nⴙ\nⴚ\nⴛ\nⴜ\nⴝ\nⴞ\nⴟ\nⴠ\nⴡ\nⴢ\nⴣ\nⴤ\nⴥ"), (0x10C7, "ⴧ"), (0x10CD, "ⴭ"),
   (0x13A0, "ꭰ\nꭱ\nꭲ\nꭳ\nꭴ\nꭵ\nꭶ\nꭷ\nꭸ\nꭹ\nꭺ\nꭻ\nꭼ\nꭽ\nꭾ\nꭿ\nꮀ\nꮁ\nꮂ\nꮃ\nꮄ\nꮅ"),
   (0x13B6, "ꮆ\nꮇ\nꮈ\nꮉ\nꮊ\nꮋ\nꮌ\nꮍ\nꮎ\nꮏ\nꮐ\nꮑ\nꮒ\nꮓ\nꮔ\nꮕ\nꮖ\nꮗ\nꮘ\nꮙ\nꮚ\nꮛ"),
   (0x13CC, "ꮜ\nꮝ\nꮞ\nꮟ\nꮠ\nꮡ\nꮢ\nꮣ\nꮤ\nꮥ\nꮦ\nꮧ\nꮨ\nꮩ\nꮪ\nꮫ\nꮬ\nꮭ\nꮮ\nꮯ\nꮰ\nꮱ"),
   (0x13E2, "ꮲ\nꮳ\nꮴ\nꮵ\nꮶ\nꮷ\nꮸ\nꮹ\nꮺ\nꮻ\nꮼ\nꮽ\nꮾ\nꮿ\nᏸ\nᏹ\nᏺ\nᏻ\nᏼ\nᏽ"),
   (0x1C90, "ა\nბ\nგ\nდ\nე\nვ\nზ\nთ\nი\nკ\nლ\nმ\nნ\nო\nპ\nჟ\nრ\nს\nტ\nუ\nფ\nქ"),
   (0x1CA6, "ღ\nყ\nშ\nჩ\nც\nძ\nწ\nჭ\nხ\nჯ\nჰ\nჱ\nჲ\nჳ\nჴ\nჵ\nჶ\nჷ\nჸ\nჹ\nჺ"), (0x1CBD, "ჽ\nჾ\nჿ"),
   (0x1E00, "a\u0325\na\u0325\nb\u0307\nb\u0307\nb\u0323\nb\u0323\nb\u0331"),
   (0x1E07, "b\u0331\nc\u0327\u0301\nc\u0327\u0301\nd\u0307\nd\u0307\nd\u0323"),
   (0x1E0D, "d\u0323\nd\u0331\nd\u0331\nd\u0327\nd\u0327\nd\u032d\nd\u032d"),
   (0x1E14, "e\u0304\u0300\ne\u0304\u0300\ne\u0304\u0301\ne\u0304\u0301"),
   (0x1E18, "e\u032d\ne\u032d\ne\u0330\ne\u0330\ne\u0327\u0306\ne\u0327\u0306"),
   (0x1E1E, "f\u0307\nf\u0307\ng\u0304\ng\u0304\nh\u0307\nh\u0307\nh\u0323"),
   (0x1E25, "h\u0323\nh\u0308\nh\u0308\nh\u0327\nh\u0327\nh\u032e\nh\u032e"),
   (0x1E2C, "i\u0330\ni\u0330\ni\u0308\u0301\ni\u0308\u0301\nk\u0301\nk\u0301"),
   (0x1E32, "k\u0323\nk\u0323\nk\u0331\nk\u0331\nl\u0323\nl\u0323"),
   (0x1E38, "l\u0323\u0304\nl\u0323\u0304\nl\u0331\nl\u0331\nl\u032d\nl\u032d"),
   (0x1E3E, "m\u0301\nm\u0301\nm\u0307\nm\u0307\nm\u0323\nm\u0323\nn\u0307"),
   (0x1E45, "n\u0307\nn\u0323\nn\u0323\nn\u0331\nn\u0331\nn\u032d\nn\u032d"),
   (0x1E4C, "o\u0303\u0301\no\u0303\u0301\no\u0303\u0308\no\u0303\u0308"),
   (0x1E50, "o\u0304\u0300\no\u0304\u0300\no\u0304\u0301\no\u0304\u0301"),
   (0x1E54, "p\u0301\np\u0301\np\u0307\np\u0307\nr\u0307\nr\u0307\nr\u0323"),
   (0x1E5B, "r\u0323\nr\u0323\u0304\nr\u0323\u0304\nr\u0331\nr\u0331\ns\u0307"),
   (0x1E61, "s\u0307\ns\u0323\ns\u0323\ns\u0301\u0307\ns\u0301\u0307"),
   (0x1E66, "s\u030c\u0307\ns\u030c\u0307\ns\u0323\u0307\ns\u0323\u0307"),
   (0x1E6A, "t\u0307\nt\u0307\nt\u0323\nt\u0323\nt\u0331\nt\u0331\nt\u032d"),
   (0x1E71, "t\u032d\nu\u0324\nu\u0324\nu\u0330\nu\u0330\nu\u032d\nu\u032d"),
   (0x1E78, "u\u0303\u0301\nu\u0303\u0301\nu\u0304\u0308\nu\u0304\u0308"),
   (0x1E7C, "v\u0303\nv\u0303\nv\u0323\nv\u0323\nw\u0300\nw\u0300\nw\u0301"),
   (0x1E83, "w\u0301\nw\u0308\nw\u0308\nw\u0307\nw\u0307\nw\u0323\nw\u0323"),
   (0x1E8A, "x\u0307\nx\u0307\nx\u0308\nx\u0308\ny\u0307\ny\u0307\nz\u0302"),
   (0x1E91, "z\u0302\nz\u0323\nz\u0323\nz\u0331\nz\u0331\nh\u0331\nt\u0308"),
   (0x1E98, "w\u030a\ny\u030a\naʾ\ns\u0307"), (0x1E9E, "ss"),
   (0x1EA0, "a\u0323\na\u0323\na\u0309\na\u0309\na\u0302\u0301\na\u0302\u0301"),
   (0x1EA6, "a\u0302\u0300\na\u0302\u0300\na\u0302\u0309\na\u0302\u0309"),
   (0x1EAA, "a\u0302\u0303\na\u0302\u0303\na\u0323\u0302\na\u0323\u0302"),
   (0x1EAE, "a\u0306\u0301\na\u0306\u0301\na\u0306\u0300\na\u0306\u0300"),
   (0x1EB2, "a\u0306\u0309\na\u0306\u0309\na\u0306\u0303\na\u0306\u0303"),
   (0x1EB6, "a\u0323\u0306\na\u0323\u0306\ne\u0323\ne\u0323\ne\u0309\ne\u0309"),
   (0x1EBC, "e\u0303\ne\u0303\ne\u0302\u0301\ne\u0302\u0301\ne\u0302\u0300"),
   (0x1EC1, "e\u0302\u0300\ne\u0302\u0309\ne\u0302\u0309\ne\u0302\u0303"),
   (0x1EC5, "e\u0302\u0303\ne\u0323\u0302\ne\u0323\u0302\ni\u0309\ni\u0309"),
   (0x1ECA, "i\u0323\ni\u0323\no\u0323\no\u0323\no\u0309\no\u0309"),
   (0x1ED0, "o\u0302\u0301\no\u0302\u0301\no\u0302\u0300\no\u0302\u0300"),
   (0x1ED4, "o\u0302\u0309\no\u0302\u0309\no\u0302\u0303\no\u0302\u0303"),
   (0x1ED8, "o\u0323\u0302\no\u0323\u0302\no\u031b\u0301\no\u031b\u0301"),
   (0x1EDC, "o\u031b\u0300\no\u031b\u0300\no\u031b\u0309\no\u031b\u0309"),
   (0x1EE0, "o\u031b\u0303\no\u031b\u0303\no\u031b\u0323\no\u031b\u0323"),
   (0x1EE4, "u\u0323\nu\u0323\nu\u0309\nu\u0309\nu\u031b\u0301\nu\u031b\u0301"),
   (0x1EEA, "u\u031b\u0300\nu\u031b\u0300\nu\u031b\u0309\nu\u031b\u0309"),
   (0x1EEE, "u\u031b\u0303\nu\u031b\u0303\nu\u031b\u0323\nu\u031b\u0323"),
   (0x1EF2, "y\u0300\ny\u0300\ny\u0323\ny\u0323\ny\u0309\ny\u0309\ny\u0303"),
   (0x1EF9, "y\u0303\nỻ"), (0x1EFC, "ỽ"), (0x1EFE, "ỿ"),
   (0x1F00, "α\u0313\nα\u0314\nα\u0313\u0300\nα\u0314\u0300\nα\u0313\u0301"),
   (0x1F05, "α\u0314\u0301\nα\u0313\u0342\nα\u0314\u0342\nα\u0313\nα\u0314"),
   (0x1F0A, "α\u0313\u0300\nα\u0314\u0300\nα\u0313\u0301\nα\u0314\u0301"),
   (0x1F0E, "α\u0313\u0342\nα\u0314\u0342\nε\u0313\nε\u0314\nε\u0313\u0300"),
   (0x1F13, "ε\u0314\u0300\nε\u0313\u0301\nε\u0314\u0301"),
   (0x1F18, "ε\u0313\nε\u0314\nε\u0313\u0300\nε\u0314\u0300\nε\u0313\u0301"),
   (0x1F1D, "ε\u0314\u0301"),
   (0x1F20, "η\u0313\nη\u0314\nη\u0313\u0300\nη\u0314\u0300\nη\u0313\u0301"),
   (0x1F25, "η\u0314\u0301\nη\u0313\u0342\nη\u0314\u0342\nη\u0313\nη\u0314"),
   (0x1F2A, "η\u0313\u0300\nη\u0314\u0300\nη\u0313\u0301\nη\u0314\u0301"),
   (0x1F2E, "η\u0313\u0342\nη\u0314\u0342\nι\u0313\nι\u0314\nι\u0313\u0300"),
   (0x1F33, "ι\u0314\u0300\nι\u0313\u0301\nι\u0314\u0301\nι\u0313\u0342"),
   (0x1F37, "ι\u0314\u0342\nι\u0313\nι\u0314\nι\u0313\u0300\nι\u0314\u0300"),
   (0x1F3C, "ι\u0313\u0301\nι\u0314\u0301\nι\u0313\u0342\nι\u0314\u0342"),
   (0x1F40, "ο\u0313\nο\u0314\nο\u0313\u0300\nο\u0314\u0300\nο\u0313\u0301"),
   (0x1F45, "ο\u0314\u0301"),
   (0x1F48, "ο\u0313\nο\u0314\nο\u0313\u0300\nο\u0314\u0300\nο\u0313\u0301"),
   (0x1F4D, "ο\u0314\u0301"),
   (0x1F50, "υ\u0313\nυ\u0314\nυ\u0313\u0300\nυ\u0314\u0300\nυ\u0313\u0301"),
   (0x1F55, "υ\u0314\u0301\nυ\u0313\u0342\nυ\u0314\u0342"), (0x1F59, "υ\u0314"),
   (0x1F5B, "υ\u0314\u0300"), (0x1F5D, "υ\u0314\u0301"),
   (0x1F5F, "υ\u0314\u0342\nω\u0313\nω\u0314\nω\u0313\u0300\nω\u0314\u0300"),
   (0x1F64, "ω\u0313\u0301\nω\u0314\u0301\nω\u0313\u0342\nω\u0314\u0342"),
   (0x1F68, "ω\u0313\nω\u0314\nω\u0313\u0300\nω\u0314\u0300\nω\u0313\u0301"),
   (0x1F6D, "ω\u0314\u0301\nω\u0313\u0342\nω\u0314\u0342\nα\u0300\nα\u0301"),
   (0x1F72, "ε\u0300\nε\u0301\nη\u0300\nη\u0301\nι\u0300\nι\u0301\nο\u0300"),
   (0x1F79, "ο\u0301\nυ\u0300\nυ\u0301\nω\u0300\nω\u0301"),
   (0x1F80, "α\u0313ι\nα\u0314ι\nα\u0313\u0300ι\nα\u0314\u0300ι\nα\u0313\u0301ι"),
   (0x1F85, "α\u0314\u0301ι\nα\u0313\u0342ι\nα\u0314\u0342ι\nα\u0313ι\nα\u0314ι"),
   (0x1F8A, "α\u0313\u0300ι\nα\u0314\u0300ι\nα\u0313\u0301ι\nα\u0314\u0301ι"),
   (0x1F8E, "α\u0313\u0342ι\nα\u0314\u0342ι\nη\u0313ι\nη\u0314ι\nη\u0313\u0300ι"),
   (0x1F93, "η\u0314\u0300ι\nη\u0313\u0301ι\nη\u0314\u0301ι\nη\u0313\u0342ι"),
   (0x1F97, "η\u0314\u0342ι\nη\u0313ι\nη\u0314ι\nη\u0313\u0300ι\nη\u0314\u0300ι"),
   (0x1F9C, "η\u0313\u0301ι\nη\u0314\u0301ι\nη\u0313\u0342ι\nη\u0314\u0342ι"),
   (0x1FA0, "ω\u0313ι\nω\u0314ι\nω\u0313\u0300ι\nω\u0314\u0300ι\nω\u0313\u0301ι"),
   (0x1FA5, "ω\u0314\u0301ι\nω\u0313\u0342ι\nω\u0314\u0342ι\nω\u0313ι\nω\u0314ι"),
   (0x1FAA, "ω\u0313\u0300ι\nω\u0314\u0300ι\nω\u0313\u0301ι\nω\u0314\u0301ι"),
   (0x1FAE, "ω\u0313\u0342ι\nω\u0314\u0342ι\nα\u0306\nα\u0304\nα\u0300ι\nαι"),
   (0x1FB4, "α\u0301ι"),
   (0x1FB6, "α\u0342\nα\u0342ι\nα\u0306\nα\u0304\nα\u0300\nα\u0301\nαι\n \u0313"),
   (0x1FBE, "ι\n \u0313\n \u0342\n \u0308\u0342\nη\u0300ι\nηι\nη\u0301ι"),
   (0x1FC6, "η\u0342\nη\u0342ι\nε\u0300\nε\u0301\nη\u0300\nη\u0301\nηι"),
   (0x1FCD, " \u0313\u0300\n \u0313\u0301\n \u0313\u0342\nι\u0306\nι\u0304"),
   (0x1FD2, "ι\u0308\u0300\nι\u0308\u0301"),
   (0x1FD6, "ι\u0342\nι\u0308\u0342\nι\u0306\nι\u0304\nι\u0300\nι\u0301"),
   (0x1FDD, " \u0314\u0300\n \u0314\u0301\n \u0314\u0342\nυ\u0306\nυ\u0304"),
   (0x1FE2, "υ\u0308\u0300\nυ\u0308\u0301\nρ\u0313\nρ\u0314\nυ\u0342"),
   (0x1FE7, "υ\u0308\u0342\nυ\u0306\nυ\u0304\nυ\u0300\nυ\u0301\nρ\u0314"),
   (0x1FED, " \u0308\u0300\n \u0308\u0301\n`"), (0x1FF2, "ω\u0300ι\nωι\nω\u0301ι"),
   (0x1FF6, "ω\u0342\nω\u0342ι\nο\u0300\nο\u0301\nω\u0300\nω\u0301\nωι\n \u0301"),
   (0x1FFE, " \u0314"), (0x2000, " \n \n \n \n \n \n \n \n \n \n "), (0x2011, "‐"),
   (0x2017, " \u0333"), (0x2024, ".\n..\n..."), (0x202F, " "), (0x2033, "′′\n′′′"),
   (0x2036, "‵‵\n‵‵‵"), (0x203C, "!!"), (0x203E, " \u0305"), (0x2047, "??\n?!\n!?"),
   (0x2057, "′′′′"), (0x205F, " "), (0x2070, "0\ni"),
   (0x2074, "4\n5\n6\n7\n8\n9\n+\n−\n=\n(\n)\nn\n0\n1\n2\n3\n4\n5\n6\n7\n8\n9"),
   (0x208A, "+\n−\n=\n(\n)"), (0x20A8, "rs"), (0x2100, "a/c\na/s\nc\n°c"), (0x2105, "c/o\nc/u\nɛ"),
   (0x2109, "°f\ng\nh\nh\nh\nh\nħ\ni\ni\nl\nl"), (0x2115, "n\nno"), (0x2119, "p\nq\nr\nr\nr"),
   (0x2120, "sm\ntel\ntm"), (0x2124, "z"), (0x2126, "ω"), (0x2128, "z"),
   (0x212A, "k\na\u030a\nb\nc"), (0x212F, "e\ne\nf\nⅎ\nm\no\n\u05d0\n\u05d1\n\u05d2\n\u05d3\ni"),
   (0x213D, "γ\nγ\nπ\n∑"), (0x2145, "d\nd\ne\ni\nj"),
   (0x2153, "1⁄3\n2⁄3\n1⁄5\n2⁄5\n3⁄5\n4⁄5\n1⁄6\n5⁄6\n1⁄8\n3⁄8\n5⁄8\n7⁄8\n1⁄\ni"),
   (0x2161, "ii\niii\niv\nv\nvi\nvii\nviii\nix\nx\nxi\nxii\nl\nc\nd\nm\ni\nii"),
   (0x2172, "iii\niv\nv\nvi\nvii\nviii\nix\nx\nxi\nxii\nl\nc\nd\nm"), (0x2183, "ↄ"),
   (0x219A, "←\u0338\n→\u0338"), (0x21AE, "↔\u0338"), (0x21CD, "⇐\u0338\n⇔\u0338\n⇒\u0338"),
   (0x2204, "∃\u0338"), (0x2209, "∈\u0338"), (0x220C, "∋\u0338"), (0x2224, "∣\u0338"),
   (0x2226, "∥\u0338"), (0x222C, "∫∫\n∫∫∫"), (0x222F, "∮∮\n∮∮∮"), (0x2241, "∼\u0338"),
   (0x2244, "≃\u0338"), (0x2247, "≅\u0338"), (0x2249, "≈\u0338"), (0x2260, "=\u0338"),
   (0x2262, "≡\u0338"), (0x226D, "≍\u0338\n<\u0338\n>\u0338\n≤\u0338\n≥\u0338"),
   (0x2274, "≲\u0338\n≳\u0338"), (0x2278, "≶\u0338\n≷\u0338"), (0x2280, "≺\u0338\n≻\u0338"),
   (0x2284, "⊂\u0338\n⊃\u0338"), (0x2288, "⊆\u0338\n⊇\u0338"),
   (0x22AC, "⊢\u0338\n⊨\u0338\n⊩\u0338\n⊫\u0338"), (0x22E0, "≼\u0338\n≽\u0338\n⊑\u0338\n⊒\u0338"),
   (0x22EA, "⊲\u0338\n⊳\u0338\n⊴\u0338\n⊵\u0338"), (0x2329, "〈\n〉"),
   (0x2460, "1\n2\n3\n4\n5\n6\n7\n8\n9\n10\n11\n12\n13\n14\n15\n16\n17\n18\n19"),
   (0x2473, "20\n(1)\n(2)\n(3)\n(4)\n(5)\n(6)\n(7)\n(8)\n(9)\n(10)\n(11)\n(12)"),
   (0x2480, "(13)\n(14)\n(15)\n(16)\n(17)\n(18)\n(19)\n(20)\n1.\n2.\n3.\n4.\n5."),
   (0x248D, "6.\n7.\n8.\n9.\n10.\n11.\n12.\n13.\n14.\n15.\n16.\n17.\n18.\n19."),
   (0x249B, "20.\n(a)\n(b)\n(c)\n(d)\n(e)\n(f)\n(g)\n(h)\n(i)\n(j)\n(k)\n(l)"),
   (0x24A8, "(m)\n(n)\n(o)\n(p)\n(q)\n(r)\n(s)\n(t)\n(u)\n(v)\n(w)\n(x)\n(y)"),
   (0x24B5, "(z)\na\nb\nc\nd\ne\nf\ng\nh\ni\nj\nk\nl\nm\nn\no\np\nq\nr\ns\nt\nu"),
   (0x24CB, "v\nw\nx\ny\nz\na\nb\nc\nd\ne\nf\ng\nh\ni\nj\nk\nl\nm\nn\no\np\nq"),
   (0x24E1, "r\ns\nt\nu\nv\nw\nx\ny\nz\n0"), (0x2A0C, "∫∫∫∫"), (0x2A74, "::=\n==\n==="),
   (0x2ADC, "⫝\u0338"),
   (0x2C00, "ⰰ\nⰱ\nⰲ\nⰳ\nⰴ\nⰵ\nⰶ\nⰷ\nⰸ\nⰹ\nⰺ\nⰻ\nⰼ\nⰽ\nⰾ\nⰿ\nⱀ\nⱁ\nⱂ\nⱃ\nⱄ\nⱅ"),
   (0x2C16, "ⱆ\nⱇ\nⱈ\nⱉ\nⱊ\nⱋ\nⱌ\nⱍ\nⱎ\nⱏ\nⱐ\nⱑ\nⱒ\nⱓ\nⱔ\nⱕ\nⱖ\nⱗ\nⱘ\nⱙ\nⱚ\nⱛ"),
   (0x2C2C, "ⱜ\nⱝ\nⱞ\nⱟ"), (0x2C60, "ⱡ"), (0x2C62, "ɫ\nᵽ\nɽ"), (0x2C67, "ⱨ"), (0x2C69, "ⱪ"),
   (0x2C6B, "ⱬ"), (0x2C6D, "ɑ\nɱ\nɐ\nɒ"), (0x2C72, "ⱳ"), (0x2C75, "ⱶ"), (0x2C7E, "ȿ\nɀ\nⲁ"),
   (0x2C82, "ⲃ"), (0x2C84, "ⲅ"), (0x2C86, "ⲇ"), (0x2C88, "ⲉ"), (0x2C8A, "ⲋ"), (0x2C8C, "ⲍ"),
   (0x2C8E, "ⲏ"), (0x2C90, "ⲑ"), (0x2C92, "ⲓ"), (0x2C94, "ⲕ"), (0x2C96, "ⲗ"), (0x2C98, "ⲙ"),
   (0x2C9A, "ⲛ"), (0x2C9C, "ⲝ"), (0x2C9E, "ⲟ"), (0x2CA0, "ⲡ"), (0x2CA2, "ⲣ"), (0x2CA4, "ⲥ"),
   (0x2CA6, "ⲧ"), (0x2CA8, "ⲩ"), (0x2CAA, "ⲫ"), (0x2CAC, "ⲭ"), (0x2CAE, "ⲯ"), (0x2CB0, "ⲱ"),
   (0x2CB2, "ⲳ"), (0x2CB4, "ⲵ"), (0x2CB6, "ⲷ"), (0x2CB8, "ⲹ"), (0x2CBA, "ⲻ"), (0x2CBC, "ⲽ"),
   (0x2CBE, "ⲿ"), (0x2CC0, "ⳁ"), (0x2CC2, "ⳃ"), (0x2CC4, "ⳅ"), (0x2CC6, "ⳇ"), (0x2CC8, "ⳉ"),
   (0x2CCA, "ⳋ"), (0x2CCC, "ⳍ"), (0x2CCE, "ⳏ"), (0x2CD0, "ⳑ"), (0x2CD2, "ⳓ"), (0x2CD4, "ⳕ"),
   (0x2CD6, "ⳗ"), (0x2CD8, "ⳙ"), (0x2CDA, "ⳛ"), (0x2CDC, "ⳝ"), (0x2CDE, "ⳟ"), (0x2CE0, "ⳡ"),
   (0x2CE2, "ⳣ"), (0x2CEB, "ⳬ"), (0x2CED, "ⳮ"), (0x2CF2, "ⳳ"), (0x2E9F, "母"), (0x2EF3, "龟"),
   (0x2F00, "一\n丨\n丶\n丿\n乙\n亅\n二\n亠\n人\n儿\n入\n八\n冂\n冖\n冫\n几\n凵\n刀\n力\n勹\n匕\n匚"),
   (0x2F16, "匸\n十\n卜\n卩\n厂\n厶\n又\n口\n囗\n土\n士\n夂\n夊\n夕\n大\n女\n子\n宀\n寸\n小\n尢\n尸"),
   (0x2F2C, "屮\n山\n巛\n工\n己\n巾\n干\n幺\n广\n廴\n廾\n弋\n弓\n彐\n彡\n彳\n心\n戈\n戶\n手\n支\n攴"),
   (0x2F42, "文\n斗\n斤\n方\n无\n日\n曰\n月\n木\n欠\n止\n歹\n殳\n毋\n比\n毛\n氏\n气\n水\n火\n爪\n父"),
   (0x2F58, "爻\n爿\n片\n牙\n牛\n犬\n玄\n玉\n瓜\n瓦\n甘\n生\n用\n田\n疋\n疒\n癶\n白\n皮\n皿\n目\n矛"),
   (0x2F6E, "矢\n石\n示\n禸\n禾\n穴\n立\n竹\n米\n糸\n缶\n网\n羊\n羽\n老\n而\n耒\n耳\n聿\n肉\n臣\n自"),
   (0x2F84, "至\n臼\n舌\n舛\n舟\n艮\n色\n艸\n虍\n虫\n血\n行\n衣\n襾\n見\n角\n言\n谷\n豆\n豕\n豸\n貝"),
   (0x2F9A, "赤\n走\n足\n身\n車\n辛\n辰\n辵\n邑\n酉\n釆\n里\n金\n長\n門\n阜\n隶\n隹\n雨\n靑\n非\n面"),
   (0x2FB0, "革\n韋\n韭\n音\n頁\n風\n飛\n食\n首\n香\n馬\n骨\n高\n髟\n鬥\n鬯\n鬲\n鬼\n魚\n鳥\n鹵\n鹿"),
   (0x2FC6, "麥\n麻\n黃\n黍\n黑\n黹\n黽\n鼎\n鼓\n鼠\n鼻\n齊\n齒\n龍\n龜\n龠"), (0x3000, " "), (0x3036, "〒"),
   (0x3038, "十\n卄\n卅"), (0x304C, "か\u3099"), (0x304E, "き\u3099"), (0x3050, "く\u3099"),
   (0x3052, "け\u3099"), (0x3054, "こ\u3099"), (0x3056, "さ\u3099"), (0x3058, "し\u3099"),
   (0x305A, "す\u3099"), (0x305C, "せ\u3099"), (0x305E, "そ\u3099"), (0x3060, "た\u3099"),
   (0x3062, "ち\u3099"), (0x3065, "つ\u3099"), (0x3067, "て\u3099"), (0x3069, "と\u3099"),
   (0x3070, "は\u3099\nは\u309a"), (0x3073, "ひ\u3099\nひ\u309a"), (0x3076, "ふ\u3099\nふ\u309a"),
   (0x3079, "へ\u3099\nへ\u309a"), (0x307C, "ほ\u3099\nほ\u309a"), (0x3094, "う\u3099"),
   (0x309B, " \u3099\n \u309a"), (0x309E, "ゝ\u3099\nより"), (0x30AC, "カ\u3099"), (0x30AE, "キ\u3099"),
   (0x30B0, "ク\u3099"), (0x30B2, "ケ\u3099"), (0x30B4, "コ\u3099"), (0x30B6, "サ\u3099"),
   (0x30B8, "シ\u3099"), (0x30BA, "ス\u3099"), (0x30BC, "セ\u3099"), (0x30BE, "ソ\u3099"),
   (0x30C0, "タ\u3099"), (0x30C2, "チ\u3099"), (0x30C5, "ツ\u3099"), (0x30C7, "テ\u3099"),
   (0x30C9, "ト\u3099"), (0x30D0, "ハ\u3099\nハ\u309a"), (0x30D3, "ヒ\u3099\nヒ\u309a"),
   (0x30D6, "フ\u3099\nフ\u309a"), (0x30D9, "ヘ\u3099\nヘ\u309a"), (0x30DC, "ホ\u3099\nホ\u309a"),
   (0x30F4, "ウ\u3099"), (0x30F7, "ワ\u3099\nヰ\u3099\nヱ\u3099\nヲ\u3099"), (0x30FE, "ヽ\u3099\nコト"),
   (0x3131, "\u1100\n\u1101\n\u11aa\n\u1102\n\u11ac\n\u11ad\n\u1103\n\u1104"),
   (0x3139, "\u1105\n\u11b0\n\u11b1\n\u11b2\n\u11b3\n\u11b4\n\u11b5\n\u111a"),
   (0x3141, "\u1106\n\u1107\n\u1108\n\u1121\n\u1109\n\u110a\n\u110b\n\u110c"),
   (0x3149, "\u110d\n\u110e\n\u110f\n\u1110\n\u1111\n\u1112\n\u1161\n\u1162"),
   (0x3151, "\u1163\n\u1164\n\u1165\n\u1166\n\u1167\n\u1168\n\u1169\n\u116a"),
   (0x3159, "\u116b\n\u116c\n\u116d\n\u116e\n\u116f\n\u1170\n\u1171\n\u1172"),
   (0x3161, "\u1173\n\u1174\n\u1175\n\u1160\n\u1114\n\u1115\n\u11c7\n\u11c8"),
   (0x3169, "\u11cc\n\u11ce\n\u11d3\n\u11d7\n\u11d9\n\u111c\n\u11dd\n\u11df"),
   (0x3171, "\u111d\n\u111e\n\u1120\n\u1122\n\u1123\n\u1127\n\u1129\n\u112b"),
   (0x3179, "\u112c\n\u112d\n\u112e\n\u112f\n\u1132\n\u1136\n\u1140\n\u1147"),
   (0x3181, "\u114c\n\u11f1\n\u11f2\n\u1157\n\u1158\n\u1159\n\u1184\n\u1185"),
   (0x3189, "\u1188\n\u1191\n\u1192\n\u1194\n\u119e\n\u11a1"),
   (0x3192, "一\n二\n三\n四\n上\n中\n下\n甲\n乙\n丙\n丁\n天\n地\n人"),
   (0x3200, "(\u1100)\n(\u1102)\n(\u1103)\n(\u1105)\n(\u1106)\n(\u1107)"),
   (0x3206, "(\u1109)\n(\u110b)\n(\u110c)\n(\u110e)\n(\u110f)\n(\u1110)"),
   (0x320C, "(\u1111)\n(\u1112)\n(\u1100\u1161)\n(\u1102\u1161)\n(\u1103\u1161)"),
   (0x3211, "(\u1105\u1161)\n(\u1106\u1161)\n(\u1107\u1161)\n(\u1109\u1161)"),
   (0x3215, "(\u110b\u1161)\n(\u110c\u1161)\n(\u110e\u1161)\n(\u110f\u1161)"),
   (0x3219, "(\u1110\u1161)\n(\u1111\u1161)\n(\u1112\u1161)\n(\u110c\u116e)"),
   (0x3220, "(一)\n(二)\n(三)\n(四)\n(五)\n(六)\n(七)\n(八)\n(九)\n(十)\n(月)\n(火)\n(水)"),
   (0x322D, "(木)\n(金)\n(土)\n(日)\n(株)\n(有)\n(社)\n(名)\n(特)\n(財)\n(祝)\n(労)\n(代)"),
   (0x323A, "(呼)\n(学)\n(監)\n(企)\n(資)\n(協)\n(祭)\n(休)\n(自)\n(至)"),
   (0x3251, "21\n22\n23\n24\n25\n26\n27\n28\n29\n30\n31\n32\n33\n34\n35\n\u1100"),
   (0x3261, "\u1102\n\u1103\n\u1105\n\u1106\n\u1107\n\u1109\n\u110b\n\u110c"),
   (0x3269, "\u110e\n\u110f\n\u1110\n\u1111\n\u1112\n\u1100\u1161\n\u1102\u1161"),
   (0x3270, "\u1103\u1161\n\u1105\u1161\n\u1106\u1161\n\u1107\u1161"),
   (0x3274, "\u1109\u1161\n\u110b\u1161\n\u110c\u1161\n\u110e\u1161"),
   (0x3278, "\u110f\u1161\n\u1110\u1161\n\u1111\u1161\n\u1112\u1161"),
   (0x3280, "一\n二\n三\n四\n五\n六\n七\n八\n九\n十\n月\n火\n水\n木\n金\n土\n日\n株\n有\n社\n名\n特"),
   (0x3296, "財\n祝\n労\n秘\n男\n女\n適\n優\n印\n注\n項\n休\n写\n正\n上\n中\n下\n左\n右\n医\n宗\n学"),
   (0x32AC, "監\n企\n資\n協\n夜\n36\n37\n38\n39\n40\n41\n42\n43\n44\n45\n46\n47\n48"),
   (0x32BE, "49\n50\n1月\n2月\n3月\n4月\n5月\n6月\n7月\n8月\n9月\n10月\n11月\n12月"),
   (0x32D0, "ア\nイ\nウ\nエ\nオ\nカ\nキ\nク\nケ\nコ\nサ\nシ\nス\nセ\nソ\nタ\nチ\nツ\nテ\nト\nナ\nニ"),
   (0x32E6, "ヌ\nネ\nノ\nハ\nヒ\nフ\nヘ\nホ\nマ\nミ\nム\nメ\nモ\nヤ\nユ\nヨ\nラ\nリ\nル\nレ\nロ\nワ"),
   (0x32FC, "ヰ\nヱ\nヲ"), (0x3300, "アハ\u309aート\nアルファ\nアンヘ\u309aア\nアール\nイニンク\u3099\nインチ\nウォン"),
   (0x3307, "エスクート\u3099\nエーカー\nオンス\nオーム\nカイリ\nカラット\nカロリー\nカ\u3099ロン\nカ\u3099ンマ"),
   (0x3310, "キ\u3099カ\u3099\nキ\u3099ニー\nキュリー\nキ\u3099ルタ\u3099ー\nキロ\nキロク\u3099ラム"),
   (0x3316, "キロメートル\nキロワット\nク\u3099ラム\nク\u3099ラムトン\nクルセ\u3099イロ\nクローネ\nケース\nコルナ"),
   (0x331E, "コーホ\u309a\nサイクル\nサンチーム\nシリンク\u3099\nセンチ\nセント\nタ\u3099ース\nテ\u3099シ"),
   (0x3326, "ト\u3099ル\nトン\nナノ\nノット\nハイツ\nハ\u309aーセント\nハ\u309aーツ\nハ\u3099ーレル"),
   (0x332E, "ヒ\u309aアストル\nヒ\u309aクル\nヒ\u309aコ\nヒ\u3099ル\nファラット\u3099\nフィート"),
   (0x3334, "フ\u3099ッシェル\nフラン\nヘクタール\nヘ\u309aソ\nヘ\u309aニヒ\nヘルツ\nヘ\u309aンス"),
   (0x333B, "ヘ\u309aーシ\u3099\nヘ\u3099ータ\nホ\u309aイント\nホ\u3099ルト\nホン"),
   (0x3340, "ホ\u309aント\u3099\nホール\nホーン\nマイクロ\nマイル\nマッハ\nマルク\nマンション\nミクロン\nミリ"),
   (0x334A, "ミリハ\u3099ール\nメカ\u3099\nメカ\u3099トン\nメートル\nヤート\u3099\nヤール\nユアン\nリットル"),
   (0x3352, "リラ\nルヒ\u309aー\nルーフ\u3099ル\nレム\nレントケ\u3099ン\nワット\n0点\n1点\n2点\n3点"),
   (0x335C, "4点\n5点\n6点\n7点\n8点\n9点\n10点\n11点\n12点\n13点\n14点\n15点\n16点\n17点"),
   (0x336A, "18点\n19点\n20点\n21点\n22点\n23点\n24点\nhpa\nda\nau\nbar\nov\npc"),
   (0x337B, "平成\n昭和\n大正\n明治\n株式会社\npa\nna\nμa\nma\nka\nkb\nmb\ngb\ncal\nkcal"),
   (0x338A, "pf\nnf\nμf\nμg\nmg\nkg\nhz\nkhz\nmhz\nghz\nthz\nμl\nml\ndl\nkl\nfm"),
   (0x339A, "nm\nμm\nmm\ncm\nkm\nmm2\ncm2\nm2\nkm2\nmm3\ncm3\nm3\nkm3\nm∕s"),
   (0x33A8, "m∕s2\npa\nkpa\nmpa\ngpa\nrad\nrad∕s\nrad∕s2\nps\nns\nμs\nms\npv"),
   (0x33B5, "nv\nμv\nmv\nkv\nmv\npw\nnw\nμw\nmw\nkw\nmw\nkω\nmω\na.m.\nbq\ncc"),
   (0x33C5, "cd\nc∕kg\nco.\ndb\ngy\nha\nhp\nin\nkk\nkm\nkt\nlm\nln\nlog\nlx\nmb"),
   (0x33D5, "mil\nmol\nph\np.m.\nppm\npr\nsr\nsv\nwb"),
   (0x33E0, "1日\n2日\n3日\n4日\n5日\n6日\n7日\n8日\n9日\n10日\n11日\n12日\n13日\n14日\n15日"),
   (0x33EF, "16日\n17日\n18日\n19日\n20日\n21日\n22日\n23日\n24日\n25日\n26日\n27日\n28日"),
   (0x33FC, "29日\n30日\n31日"), (0xA640, "ꙁ"), (0xA642, "ꙃ"), (0xA644, "ꙅ"), (0xA646, "ꙇ"),
   (0xA648, "ꙉ"), (0xA64A, "ꙋ"), (0xA64C, "ꙍ"), (0xA64E, "ꙏ"), (0xA650, "ꙑ"), (0xA652, "ꙓ"),
   (0xA654, "ꙕ"), (0xA656, "ꙗ"), (0xA658, "ꙙ"), (0xA65A, "ꙛ"), (0xA65C, "ꙝ"), (0xA65E, "ꙟ"),
   (0xA660, "ꙡ"), (0xA662, "ꙣ"), (0xA664, "ꙥ"), (0xA666, "ꙧ"), (0xA668, "ꙩ"), (0xA66A, "ꙫ"),
   (0xA66C, "ꙭ"), (0xA680, "ꚁ"), (0xA682, "ꚃ"), (0xA684, "ꚅ"), (0xA686, "ꚇ"), (0xA688, "ꚉ"),
   (0xA68A, "ꚋ"), (0xA68C, "ꚍ"), (0xA68E, "ꚏ"), (0xA690, "ꚑ"), (0xA692, "ꚓ"), (0xA694, "ꚕ"),
   (0xA696, "ꚗ"), (0xA698, "ꚙ"), (0xA69A, "ꚛ"), (0xA722, "ꜣ"), (0xA724, "ꜥ"), (0xA726, "ꜧ"),
   (0xA728, "ꜩ"), (0xA72A, "ꜫ"), (0xA72C, "ꜭ"), (0xA72E, "ꜯ"), (0xA732, "ꜳ"), (0xA734, "ꜵ"),
   (0xA736, "ꜷ"), (0xA738, "ꜹ"), (0xA73A, "ꜻ"), (0xA73C, "ꜽ"), (0xA73E, "ꜿ"), (0xA740, "ꝁ"),
   (0xA742, "ꝃ"), (0xA744, "ꝅ"), (0xA746, "ꝇ"), (0xA748, "ꝉ"), (0xA74A, "ꝋ"), (0xA74C, "ꝍ"),
   (0xA74E, "ꝏ"), (0xA750, "ꝑ"), (0xA752, "ꝓ"), (0xA754, "ꝕ"), (0xA756, "ꝗ"), (0xA758, "ꝙ"),
   (0xA75A, "ꝛ"), (0xA75C, "ꝝ"), (0xA75E, "ꝟ"), (0xA760, "ꝡ"), (0xA762, "ꝣ"), (0xA764, "ꝥ"),
   (0xA766, "ꝧ"), (0xA768, "ꝩ"), (0xA76A, "ꝫ"), (0xA76C, "ꝭ"), (0xA76E, "ꝯ"), (0xA779, "ꝺ"),
   (0xA77B, "ꝼ"), (0xA77D, "ᵹ\nꝿ"), (0xA780, "ꞁ"), (0xA782, "ꞃ"), (0xA784, "ꞅ"), (0xA786, "ꞇ"),
   (0xA78B, "ꞌ"), (0xA78D, "ɥ"), (0xA790, "ꞑ"), (0xA792, "ꞓ"), (0xA796, "ꞗ"), (0xA798, "ꞙ"),
   (0xA79A, "ꞛ"), (0xA79C, "ꞝ"), (0xA79E, "ꞟ"), (0xA7A0, "ꞡ"), (0xA7A2, "ꞣ"), (0xA7A4, "ꞥ"),
   (0xA7A6, "ꞧ"), (0xA7A8, "ꞩ"), (0xA7AA, "ɦ\nɜ\nɡ\nɬ\nɪ"), (0xA7B0, "ʞ\nʇ\nʝ\nꭓ\nꞵ"),
   (0xA7B6, "ꞷ"), (0xA7B8, "ꞹ"), (0xA7BA, "ꞻ"), (0xA7BC, "ꞽ"), (0xA7BE, "ꞿ"), (0xA7C0, "ꟁ"),
   (0xA7C2, "ꟃ"), (0xA7C4, "ꞔ\nʂ\nᶎ\nꟈ"), (0xA7C9, "ꟊ"), (0xA7D0, "ꟑ"), (0xA7D6, "ꟗ"),
   (0xA7D8, "ꟙ"), (0xA7F5, "ꟶ"),
   (0xF900, "豈\n更\n車\n賈\n滑\n串\n句\n龜\n龜\n契\n金\n喇\n奈\n懶\n癩\n羅\n蘿\n螺\n裸\n邏\n樂\n洛"),
   (0xF916, "烙\n珞\n落\n酪\n駱\n亂\n卵\n欄\n爛\n蘭\n鸞\n嵐\n濫\n藍\n襤\n拉\n臘\n蠟\n廊\n朗\n浪\n狼"),
   (0xF92C, "郎\n來\n冷\n勞\n擄\n櫓\n爐\n盧\n老\n蘆\n虜\n路\n露\n魯\n鷺\n碌\n祿\n綠\n菉\n錄\n鹿\n論"),
   (0xF942, "壟\n弄\n籠\n聾\n牢\n磊\n賂\n雷\n壘\n屢\n樓\n淚\n漏\n累\n縷\n陋\n勒\n肋\n凜\n凌\n稜\n綾"),
   (0xF958, "菱\n陵\n讀\n拏\n樂\n諾\n丹\n寧\n怒\n率\n異\n北\n磻\n便\n復\n不\n泌\n數\n索\n參\n塞\n省"),
   (0xF96E, "葉\n說\n殺\n辰\n沈\n拾\n若\n掠\n略\n亮\n兩\n凉\n梁\n糧\n良\n諒\n量\n勵\n呂\n女\n廬\n旅"),
   (0xF984, "濾\n礪\n閭\n驪\n麗\n黎\n力\n曆\n歷\n轢\n年\n憐\n戀\n撚\n漣\n煉\n璉\n秊\n練\n聯\n輦\n蓮"),
   (0xF99A, "連\n鍊\n列\n劣\n咽\n烈\n裂\n說\n廉\n念\n捻\n殮\n簾\n獵\n令\n囹\n寧\n嶺\n怜\n玲\n瑩\n羚"),
   (0xF9B0, "聆\n鈴\n零\n靈\n領\n例\n禮\n醴\n隸\n惡\n了\n僚\n寮\n尿\n料\n樂\n燎\n療\n蓼\n遼\n龍\n暈"),
   (0xF9C6, "阮\n劉\n杻\n柳\n流\n溜\n琉\n留\n硫\n紐\n類\n六\n戮\n陸\n倫\n崙\n淪\n輪\n律\n慄\n栗\n率"),
   (0xF9DC, "隆\n利\n吏\n履\n易\n李\n梨\n泥\n理\n痢\n罹\n裏\n裡\n里\n離\n匿\n溺\n吝\n燐\n璘\n藺\n隣"),
   (0xF9F2, "鱗\n麟\n林\n淋\n臨\n立\n笠\n粒\n狀\n炙\n識\n什\n茶\n刺\n切\n度\n拓\n糖\n宅\n洞\n暴\n輻"),
   (0xFA08, "行\n降\n見\n廓\n兀\n嗀"), (0xFA10, "塚"), (0xFA12, "晴"),
   (0xFA15, "凞\n猪\n益\n礼\n神\n祥\n福\n靖\n精\n羽"), (0xFA20, "蘒"), (0xFA22, "諸"), (0xFA25, "逸\n都"),
   (0xFA2A, "飯\n飼\n館\n鶴"),
   (0xFA30, "侮\n僧\n免\n勉\n勤\n卑\n喝\n嘆\n器\n塀\n墨\n層\n屮\n悔\n慨\n憎\n懲\n敏\n既\n暑\n梅\n海"),
   (0xFA46, "渚\n漢\n煮\n爫\n琢\n碑\n社\n祉\n祈\n祐\n祖\n祝\n禍\n禎\n穀\n突\n節\n練\n縉\n繁\n署\n者"),
   (0xFA5C, "臭\n艹\n艹\n著\n褐\n視\n謁\n謹\n賓\n贈\n辶\n逸\n難\n響\n頻"),
   (0xFB00, "ff\nfi\nfl\nffi\nffl\nst\nst"), (0xFB13, "մն\nմե\nմի\nվն\nմխ"),
   (0xFB1D, "\u05d9\u05b4"),
   (0xFB1F, "\u05f2\u05b7\n\u05e2\n\u05d0\n\u05d3\n\u05d4\n\u05db\n\u05dc"),
   (0xFB26, "\u05dd\n\u05e8\n\u05ea\n+\n\u05e9\u05c1\n\u05e9\u05c2"),
   (0xFB2C, "\u05e9\u05bc\u05c1\n\u05e9\u05bc\u05c2\n\u05d0\u05b7\n\u05d0\u05b8"),
   (0xFB30, "\u05d0\u05bc\n\u05d1\u05bc\n\u05d2\u05bc\n\u05d3\u05bc"),
   (0xFB34, "\u05d4\u05bc\n\u05d5\u05bc\n\u05d6\u05bc"),
   (0xFB38, "\u05d8\u05bc\n\u05d9\u05bc\n\u05da\u05bc\n\u05db\u05bc"), (0xFB3C, "\u05dc\u05bc"),
   (0xFB3E, "\u05de\u05bc"), (0xFB40, "\u05e0\u05bc\n\u05e1\u05bc"),
   (0xFB43, "\u05e3\u05bc\n\u05e4\u05bc"),
   (0xFB46, "\u05e6\u05bc\n\u05e7\u05bc\n\u05e8\u05bc\n\u05e9\u05bc"),
   (0xFB4A, "\u05ea\u05bc\n\u05d5\u05b9\n\u05d1\u05bf\n\u05db\u05bf"),
   (0xFB4E, "\u05e4\u05bf\n\u05d0\u05dc\n\u0671\n\u0671\n\u067b\n\u067b\n\u067b"),
   (0xFB55, "\u067b\n\u067e\n\u067e\n\u067e\n\u067e\n\u0680\n\u0680\n\u0680"),
   (0xFB5D, "\u0680\n\u067a\n\u067a\n\u067a\n\u067a\n\u067f\n\u067f\n\u067f"),
   (0xFB65, "\u067f\n\u0679\n\u0679\n\u0679\n\u0679\n\u06a4\n\u06a4\n\u06a4"),
   (0xFB6D, "\u06a4\n\u06a6\n\u06a6\n\u06a6\n\u06a6\n\u0684\n\u0684\n\u0684"),
   (0xFB75, "\u0684\n\u0683\n\u0683\n\u0683\n\u0683\n\u0686\n\u0686\n\u0686"),
   (0xFB7D, "\u0686\n\u0687\n\u0687\n\u0687\n\u0687\n\u068d\n\u068d\n\u068c"),
   (0xFB85, "\u068c\n\u068e\n\u068e\n\u0688\n\u0688\n\u0698\n\u0698\n\u0691"),
   (0xFB8D, "\u0691\n\u06a9\n\u06a9\n\u06a9\n\u06a9\n\u06af\n\u06af\n\u06af"),
   (0xFB95, "\u06af\n\u06b3\n\u06b3\n\u06b3\n\u06b3\n\u06b1\n\u06b1\n\u06b1"),
   (0xFB9D, "\u06b1\n\u06ba\n\u06ba\n\u06bb\n\u06bb\n\u06bb\n\u06bb"),
   (0xFBA4, "\u06d5\u0654\n\u06d5\u0654\n\u06c1\n\u06c1\n\u06c1\n\u06c1\n\u06be"),
   (0xFBAB, "\u06be\n\u06be\n\u06be\n\u06d2\n\u06d2\n\u06d2\u0654\n\u06d2\u0654"),
   (0xFBD3, "\u06ad\n\u06ad\n\u06ad\n\u06ad\n\u06c7\n\u06c7\n\u06c6\n\u06c6"),
   (0xFBDB, "\u06c8\n\u06c8\n\u06c7\u0674\n\u06cb\n\u06cb\n\u06c5\n\u06c5"),
   (0xFBE2, "\u06c9\n\u06c9\n\u06d0\n\u06d0\n\u06d0\n\u06d0\n\u0649\n\u0649"),
   (0xFBEA, "\u064a\u0654\u0627\n\u064a\u0654\u0627\n\u064a\u0654\u06d5"),
   (0xFBED, "\u064a\u0654\u06d5\n\u064a\u0654\u0648\n\u064a\u0654\u0648"),
   (0xFBF0, "\u064a\u0654\u06c7\n\u064a\u0654\u06c7\n\u064a\u0654\u06c6"),
   (0xFBF3, "\u064a\u0654\u06c6\n\u064a\u0654\u06c8\n\u064a\u0654\u06c8"),
   (0xFBF6, "\u064a\u0654\u06d0\n\u064a\u0654\u06d0\n\u064a\u0654\u06d0"),
   (0xFBF9, "\u064a\u0654\u0649\n\u064a\u0654\u0649\n\u064a\u0654\u0649\n\u06cc"),
   (0xFBFD, "\u06cc\n\u06cc\n\u06cc\n\u064a\u0654\u062c\n\u064a\u0654\u062d"),
   (0xFC02, "\u064a\u0654\u0645\n\u064a\u0654\u0649\n\u064a\u0654\u064a"),
   (0xFC05, "\u0628\u062c\n\u0628\u062d\n\u0628\u062e\n\u0628\u0645"),
   (0xFC09, "\u0628\u0649\n\u0628\u064a\n\u062a\u062c\n\u062a\u062d"),
   (0xFC0D, "\u062a\u062e\n\u062a\u0645\n\u062a\u0649\n\u062a\u064a"),
   (0xFC11, "\u062b\u062c\n\u062b\u0645\n\u062b\u0649\n\u062b\u064a"),
   (0xFC15, "\u062c\u062d\n\u062c\u0645\n\u062d\u062c\n\u062d\u0645"),
   (0xFC19, "\u062e\u062c\n\u062e\u062d\n\u062e\u0645\n\u0633\u062c"),
   (0xFC1D, "\u0633\u062d\n\u0633\u062e\n\u0633\u0645\n\u0635\u062d"),
   (0xFC21, "\u0635\u0645\n\u0636\u062c\n\u0636\u062d\n\u0636\u062e"),
   (0xFC25, "\u0636\u0645\n\u0637\u062d\n\u0637\u0645\n\u0638\u0645"),
   (0xFC29, "\u0639\u062c\n\u0639\u0645\n\u063a\u062c\n\u063a\u0645"),
   (0xFC2D, "\u0641\u062c\n\u0641\u062d\n\u0641\u062e\n\u0641\u0645"),
   (0xFC31, "\u0641\u0649\n\u0641\u064a\n\u0642\u062d\n\u0642\u0645"),
   (0xFC35, "\u0642\u0649\n\u0642\u064a\n\u0643\u0627\n\u0643\u062c"),
   (0xFC39, "\u0643\u062d\n\u0643\u062e\n\u0643\u0644\n\u0643\u0645"),
   (0xFC3D, "\u0643\u0649\n\u0643\u064a\n\u0644\u062c\n\u0644\u062d"),
   (0xFC41, "\u0644\u062e\n\u0644\u0645\n\u0644\u0649\n\u0644\u064a"),
   (0xFC45, "\u0645\u062c\n\u0645\u062d\n\u0645\u062e\n\u0645\u0645"),
   (0xFC49, "\u0645\u0649\n\u0645\u064a\n\u0646\u062c\n\u0646\u062d"),
   (0xFC4D, "\u0646\u062e\n\u0646\u0645\n\u0646\u0649\n\u0646\u064a"),
   (0xFC51, "\u0647\u062c\n\u0647\u0645\n\u0647\u0649\n\u0647\u064a"),
   (0xFC55, "\u064a\u062c\n\u064a\u062d\n\u064a\u062e\n\u064a\u0645"),
   (0xFC59, "\u064a\u0649\n\u064a\u064a\n\u0630\u0670\n\u0631\u0670"),
   (0xFC5D, "\u0649\u0670\n \u064c\u0651\n \u064d\u0651\n \u064e\u0651"),
   (0xFC61, " \u064f\u0651\n \u0650\u0651\n \u0651\u0670\n\u064a\u0654\u0631"),
   (0xFC65, "\u064a\u0654\u0632\n\u064a\u0654\u0645\n\u064a\u0654\u0646"),
   (0xFC68, "\u064a\u0654\u0649\n\u064a\u0654\u064a\n\u0628\u0631\n\u0628\u0632"),
   (0xFC6C, "\u0628\u0645\n\u0628\u0646\n\u0628\u0649\n\u0628\u064a"),
   (0xFC70, "\u062a\u0631\n\u062a\u0632\n\u062a\u0645\n\u062a\u0646"),
   (0xFC74, "\u062a\u0649\n\u062a\u064a\n\u062b\u0631\n\u062b\u0632"),
   (0xFC78, "\u062b\u0645\n\u062b\u0646\n\u062b\u0649\n\u062b\u064a"),
   (0xFC7C, "\u0641\u0649\n\u0641\u064a\n\u0642\u0649\n\u0642\u064a"),
   (0xFC80, "\u0643\u0627\n\u0643\u0644\n\u0643\u0645\n\u0643\u0649"),
   (0xFC84, "\u0643\u064a\n\u0644\u0645\n\u0644\u0649\n\u0644\u064a"),
   (0xFC88, "\u0645\u0627\n\u0645\u0645\n\u0646\u0631\n\u0646\u0632"),
   (0xFC8C, "\u0646\u0645\n\u0646\u0646\n\u0646\u0649\n\u0646\u064a"),
   (0xFC90, "\u0649\u0670\n\u064a\u0631\n\u064a\u0632\n\u064a\u0645"),
   (0xFC94, "\u064a\u0646\n\u064a\u0649\n\u064a\u064a\n\u064a\u0654\u062c"),
   (0xFC98, "\u064a\u0654\u062d\n\u064a\u0654\u062e\n\u064a\u0654\u0645"),
   (0xFC9B, "\u064a\u0654\u0647\n\u0628\u062c\n\u0628\u062d\n\u0628\u062e"),
   (0xFC9F, "\u0628\u0645\n\u0628\u0647\n\u062a\u062c\n\u062a\u062d"),
   (0xFCA3, "\u062a\u062e\n\u062a\u0645\n\u062a\u0647\n\u062b\u0645"),
   (0xFCA7, "\u062c\u062d\n\u062c\u0645\n\u062d\u062c\n\u062d\u0645"),
   (0xFCAB, "\u062e\u062c\n\u062e\u0645\n\u0633\u062c\n\u0633\u062d"),
   (0xFCAF, "\u0633\u062e\n\u0633\u0645\n\u0635\u062d\n\u0635\u062e"),
   (0xFCB3, "\u0635\u0645\n\u0636\u062c\n\u0636\u062d\n\u0636\u062e"),
   (0xFCB7, "\u0636\u0645\n\u0637\u062d\n\u0638\u0645\n\u0639\u062c"),
   (0xFCBB, "\u0639\u0645\n\u063a\u062c\n\u063a\u0645\n\u0641\u062c"),
   (0xFCBF, "\u0641\u062d\n\u0641\u062e\n\u0641\u0645\n\u0642\u062d"),
   (0xFCC3, "\u0642\u0645\n\u0643\u062c\n\u0643\u062d\n\u0643\u062e"),
   (0xFCC7, "\u0643\u0644\n\u0643\u0645\n\u0644\u062c\n\u0644\u062d"),
   (0xFCCB, "\u0644\u062e\n\u0644\u0645\n\u0644\u0647\n\u0645\u062c"),
   (0xFCCF, "\u0645\u062d\n\u0645\u062e\n\u0645\u0645\n\u0646\u062c"),
   (0xFCD3, "\u0646\u062d\n\u0646\u062e\n\u0646\u0645\n\u0646\u0647"),
   (0xFCD7, "\u0647\u062c\n\u0647\u0645\n\u0647\u0670\n\u064a\u062c"),
   (0xFCDB, "\u064a\u062d\n\u064a\u062e\n\u064a\u0645\n\u064a\u0647"),
   (0xFCDF, "\u064a\u0654\u0645\n\u064a\u0654\u0647\n\u0628\u0645\n\u0628\u0647"),
   (0xFCE3, "\u062a\u0645\n\u062a\u0647\n\u062b\u0645\n\u062b\u0647"),
   (0xFCE7, "\u0633\u0645\n\u0633\u0647\n\u0634\u0645\n\u0634\u0647"),
   (0xFCEB, "\u0643\u0644\n\u0643\u0645\n\u0644\u0645\n\u0646\u0645"),
   (0xFCEF, "\u0646\u0647\n\u064a\u0645\n\u064a\u0647\n\u0640\u064e\u0651"),
   (0xFCF3, "\u0640\u064f\u0651\n\u0640\u0650\u0651\n\u0637\u0649\n\u0637\u064a"),
   (0xFCF7, "\u0639\u0649\n\u0639\u064a\n\u063a\u0649\n\u063a\u064a"),
   (0xFCFB, "\u0633\u0649\n\u0633\u064a\n\u0634\u0649\n\u0634\u064a"),
   (0xFCFF, "\u062d\u0649\n\u062d\u064a\n\u062c\u0649\n\u062c\u064a"),
   (0xFD03, "\u062e\u0649\n\u062e\u064a\n\u0635\u0649\n\u0635\u064a"),
   (0xFD07, "\u0636\u0649\n\u0636\u064a\n\u0634\u062c\n\u0634\u062d"),
   (0xFD0B, "\u0634\u062e\n\u0634\u0645\n\u0634\u0631\n\u0633\u0631"),
   (0xFD0F, "\u0635\u0631\n\u0636\u0631\n\u0637\u0649\n\u0637\u064a"),
   (0xFD13, "\u0639\u0649\n\u0639\u064a\n\u063a\u0649\n\u063a\u064a"),
   (0xFD17, "\u0633\u0649\n\u0633\u064a\n\u0634\u0649\n\u0634\u064a"),
   (0xFD1B, "\u062d\u0649\n\u062d\u064a\n\u062c\u0649\n\u062c\u064a"),
   (0xFD1F, "\u062e\u0649\n\u062e\u064a\n\u0635\u0649\n\u0635\u064a"),
   (0xFD23, "\u0636\u0649\n\u0636\u064a\n\u0634\u062c\n\u0634\u062d"),
   (0xFD27, "\u0634\u062e\n\u0634\u0645\n\u0634\u0631\n\u0633\u0631"),
   (0xFD2B, "\u0635\u0631\n\u0636\u0631\n\u0634\u062c\n\u0634\u062d"),
   (0xFD2F, "\u0634\u062e\n\u0634\u0645\n\u0633\u0647\n\u0634\u0647"),
   (0xFD33, "\u0637\u0645\n\u0633\u062c\n\u0633\u062d\n\u0633\u062e"),
   (0xFD37, "\u0634\u062c\n\u0634\u062d\n\u0634\u062e\n\u0637\u0645"),
   (0xFD3B, "\u0638\u0645\n\u0627\u064b\n\u0627\u064b"),
   (0xFD50, "\u062a\u062c\u0645\n\u062a\u062d\u062c\n\u062a\u062d\u062c"),
   (0xFD53, "\u062a\u062d\u0645\n\u062a\u062e\u0645\n\u062a\u0645\u062c"),
   (0xFD56, "\u062a\u0645\u062d\n\u062a\u0645\u062e\n\u062c\u0645\u062d"),
   (0xFD59, "\u062c\u0645\u062d\n\u062d\u0645\u064a\n\u062d\u0645\u0649"),
   (0xFD5C, "\u0633\u062d\u062c\n\u0633\u062c\u062d\n\u0633\u062c\u0649"),
   (0xFD5F, "\u0633\u0645\u062d\n\u0633\u0645\u062d\n\u0633\u0645\u062c"),
   (0xFD62, "\u0633\u0645\u0645\n\u0633\u0645\u0645\n\u0635\u062d\u062d"),
   (0xFD65, "\u0635\u062d\u062d\n\u0635\u0645\u0645\n\u0634\u062d\u0645"),
   (0xFD68, "\u0634\u062d\u0645\n\u0634\u062c\u064a\n\u0634\u0645\u062e"),
   (0xFD6B, "\u0634\u0645\u062e\n\u0634\u0645\u0645\n\u0634\u0645\u0645"),
   (0xFD6E, "\u0636\u062d\u0649\n\u0636\u062e\u0645\n\u0636\u062e\u0645"),
   (0xFD71, "\u0637\u0645\u062d\n\u0637\u0645\u062d\n\u0637\u0645\u0645"),
   (0xFD74, "\u0637\u0645\u064a\n\u0639\u062c\u0645\n\u0639\u0645\u0645"),
   (0xFD77, "\u0639\u0645\u0645\n\u0639\u0645\u0649\n\u063a\u0645\u0645"),
   (0xFD7A, "\u063a\u0645\u064a\n\u063a\u0645\u0649\n\u0641\u062e\u0645"),
   (0xFD7D, "\u0641\u062e\u0645\n\u0642\u0645\u062d\n\u0642\u0645\u0645"),
   (0xFD80, "\u0644\u062d\u0645\n\u0644\u062d\u064a\n\u0644\u062d\u0649"),
   (0xFD83, "\u0644\u062c\u062c\n\u0644\u062c\u062c\n\u0644\u062e\u0645"),
   (0xFD86, "\u0644\u062e\u0645\n\u0644\u0645\u062d\n\u0644\u0645\u062d"),
   (0xFD89, "\u0645\u062d\u062c\n\u0645\u062d\u0645\n\u0645\u062d\u064a"),
   (0xFD8C, "\u0645\u062c\u062d\n\u0645\u062c\u0645\n\u0645\u062e\u062c"),
   (0xFD8F, "\u0645\u062e\u0645"),
   (0xFD92, "\u0645\u062c\u062e\n\u0647\u0645\u062c\n\u0647\u0645\u0645"),
   (0xFD95, "\u0646\u062d\u0645\n\u0646\u062d\u0649\n\u0646\u062c\u0645"),
   (0xFD98, "\u0646\u062c\u0645\n\u0646\u062c\u0649\n\u0646\u0645\u064a"),
   (0xFD9B, "\u0646\u0645\u0649\n\u064a\u0645\u0645\n\u064a\u0645\u0645"),
   (0xFD9E, "\u0628\u062e\u064a\n\u062a\u062c\u064a\n\u062a\u062c\u0649"),
   (0xFDA1, "\u062a\u062e\u064a\n\u062a\u062e\u0649\n\u062a\u0645\u064a"),
   (0xFDA4, "\u062a\u0645\u0649\n\u062c\u0645\u064a\n\u062c\u062d\u0649"),
   (0xFDA7, "\u062c\u0645\u0649\n\u0633\u062e\u0649\n\u0635\u062d\u064a"),
   (0xFDAA, "\u0634\u062d\u064a\n\u0636\u062d\u064a\n\u0644\u062c\u064a"),
   (0xFDAD, "\u0644\u0645\u064a\n\u064a\u062d\u064a\n\u064a\u062c\u064a"),
   (0xFDB0, "\u064a\u0645\u064a\n\u0645\u0645\u064a\n\u0642\u0645\u064a"),
   (0xFDB3, "\u0646\u062d\u064a\n\u0642\u0645\u062d\n\u0644\u062d\u0645"),
   (0xFDB6, "\u0639\u0645\u064a\n\u0643\u0645\u064a\n\u0646\u062c\u062d"),
   (0xFDB9, "\u0645\u062e\u064a\n\u0644\u062c\u0645\n\u0643\u0645\u0645"),
   (0xFDBC, "\u0644\u062c\u0645\n\u0646\u062c\u062d\n\u062c\u062d\u064a"),
   (0xFDBF, "\u062d\u062c\u064a\n\u0645\u062c\u064a\n\u0641\u0645\u064a"),
   (0xFDC2, "\u0628\u062d\u064a\n\u0643\u0645\u0645\n\u0639\u062c\u0645"),
   (0xFDC5, "\u0635\u0645\u0645\n\u0633\u062e\u064a\n\u0646\u062c\u064a"),
   (0xFDF0, "\u0635\u0644\u06d2\n\u0642\u0644\u06d2\n\u0627\u0644\u0644\u0647"),
   (0xFDF3, "\u0627\u0643\u0628\u0631\n\u0645\u062d\u0645\u062f"),
   (0xFDF5, "\u0635\u0644\u0639\u0645\n\u0631\u0633\u0648\u0644"),
   (0xFDF7, "\u0639\u0644\u064a\u0647\n\u0648\u0633\u0644\u0645"), (0xFDF9, "\u0635\u0644\u0649"),
   (0xFDFA, "\u0635\u0644\u0649 \u0627\u0644\u0644\u0647 \u0639\u0644\u064a" ++
    "\u0647 \u0648\u0633\u0644\u0645"),
   (0xFDFB, "\u062c\u0644 \u062c\u0644\u0627\u0644\u0647"), (0xFDFC, "\u0631\u06cc\u0627\u0644"),
   (0xFE30, "..\n—\n–\n_\n_\n(\n)\n\x7b\n\x7d\n〔\n〕\n【\n】\n《\n》\n〈\n〉\n「\n」\n『"), (0xFE44, "』"),
   (0xFE49, " \u0305\n \u0305\n \u0305\n \u0305\n_\n_\n_\n,\n、\n."),
   (0xFE54, ";\n:\n?\n!\n—\n(\n)\n\x7b\n\x7d\n〔\n〕\n#\n&\n*\n+\n-\n<\n>\n="),
   (0xFE68, "\\\n$\n%\n@"), (0xFE70, " \u064b\n\u0640\u064b\n \u064c"), (0xFE74, " \u064d"),
   (0xFE76, " \u064e\n\u0640\u064e\n \u064f\n\u0640\u064f\n \u0650"),
   (0xFE7B, "\u0640\u0650\n \u0651\n\u0640\u0651\n \u0652\n\u0640\u0652\n\u0621"),
   (0xFE81, "\u0627\u0653\n\u0627\u0653\n\u0627\u0654\n\u0627\u0654"),
   (0xFE85, "\u0648\u0654\n\u0648\u0654\n\u0627\u0655\n\u0627\u0655"),
   (0xFE89, "\u064a\u0654\n\u064a\u0654\n\u064a\u0654\n\u064a\u0654\n\u0627"),
   (0xFE8E, "\u0627\n\u0628\n\u0628\n\u0628\n\u0628\n\u0629\n\u0629\n\u062a"),
   (0xFE96, "\u062a\n\u062a\n\u062a\n\u062b\n\u062b\n\u062b\n\u062b\n\u062c"),
   (0xFE9E, "\u062c\n\u062c\n\u062c\n\u062d\n\u062d\n\u062d\n\u062d\n\u062e"),
   (0xFEA6, "\u062e\n\u062e\n\u062e\n\u062f\n\u062f\n\u0630\n\u0630\n\u0631"),
   (0xFEAE, "\u0631\n\u0632\n\u0632\n\u0633\n\u0633\n\u0633\n\u0633\n\u0634"),
   (0xFEB6, "\u0634\n\u0634\n\u0634\n\u0635\n\u0635\n\u0635\n\u0635\n\u0636"),
   (0xFEBE, "\u0636\n\u0636\n\u0636\n\u0637\n\u0637\n\u0637\n\u0637\n\u0638"),
   (0xFEC6, "\u0638\n\u0638\n\u0638\n\u0639\n\u0639\n\u0639\n\u0639\n\u063a"),
   (0xFECE, "\u063a\n\u063a\n\u063a\n\u0641\n\u0641\n\u0641\n\u0641\n\u0642"),
   (0xFED6, "\u0642\n\u0642\n\u0642\n\u0643\n\u0643\n\u0643\n\u0643\n\u0644"),
   (0xFEDE, "\u0644\n\u0644\n\u0644\n\u0645\n\u0645\n\u0645\n\u0645\n\u0646"),
   (0xFEE6, "\u0646\n\u0646\n\u0646\n\u0647\n\u0647\n\u0647\n\u0647\n\u0648"),
   (0xFEEE, "\u0648\n\u0649\n\u0649\n\u064a\n\u064a\n\u064a\n\u064a"),
   (0xFEF5, "\u0644\u0627\u0653\n\u0644\u0627\u0653\n\u0644\u0627\u0654"),
   (0xFEF8, "\u0644\u0627\u0654\n\u0644\u0627\u0655\n\u0644\u0627\u0655"),
   (0xFEFB, "\u0644\u0627\n\u0644\u0627"),
   (0xFF01, "!\n\"\n#\n$\n%\n&\n'\n(\n)\n*\n+\n,\n-\n.\n/\n0\n1\n2\n3\n4\n5\n6"),
   (0xFF17, "7\n8\n9\n:\n;\n<\n=\n>\n?\n@\na\nb\nc\nd\ne\nf\ng\nh\ni\nj\nk\nl"),
   (0xFF2D, "m\nn\no\np\nq\nr\ns\nt\nu\nv\nw\nx\ny\nz\n[\n\\\n]\n^\n_\n`\na\nb"),
   (0xFF43, "c\nd\ne\nf\ng\nh\ni\nj\nk\nl\nm\nn\no\np\nq\nr\ns\nt\nu\nv\nw\nx"),
   (0xFF59, "y\nz\n\x7b\n|\n\x7d\n~\n⦅\n⦆\n。\n「\n」\n、\n・\nヲ\nァ\nィ\nゥ\nェ\nォ\nャ"),
   (0xFF6D, "ュ\nョ\nッ\nー\nア\nイ\nウ\nエ\nオ\nカ\nキ\nク\nケ\nコ\nサ\nシ\nス\nセ\nソ\nタ\nチ\nツ"),
   (0xFF83, "テ\nト\nナ\nニ\nヌ\nネ\nノ\nハ\nヒ\nフ\nヘ\nホ\nマ\nミ\nム\nメ\nモ\nヤ\nユ\nヨ\nラ\nリ"),
   (0xFF99, "ル\nレ\nロ\nワ\nン\n\u3099\n\u309a\n\u1160\n\u1100\n\u1101\n\u11aa"),
   (0xFFA4, "\u1102\n\u11ac\n\u11ad\n\u1103\n\u1104\n\u1105\n\u11b0\n\u11b1"),
   (0xFFAC, "\u11b2\n\u11b3\n\u11b4\n\u11b5\n\u111a\n\u1106\n\u1107\n\u1108"),
   (0xFFB4, "\u1121\n\u1109\n\u110a\n\u110b\n\u110c\n\u110d\n\u110e\n\u110f"),
   (0xFFBC, "\u1110\n\u1111\n\u1112"), (0xFFC2, "\u1161\n\u1162\n\u1163\n\u1164\n\u1165\n\u1166"),
   (0xFFCA, "\u1167\n\u1168\n\u1169\n\u116a\n\u116b\n\u116c"),
   (0xFFD2, "\u116d\n\u116e\n\u116f\n\u1170\n\u1171\n\u1172"), (0xFFDA, "\u1173\n\u1174\n\u1175"),
   (0xFFE0, "¢\n£\n¬\n \u0304\n¦\n¥\n₩"), (0xFFE8, "│\n←\n↑\n→\n↓\n■\n○"),
   (0x10400, "𐐨\n𐐩\n𐐪\n𐐫\n𐐬\n𐐭\n𐐮\n𐐯\n𐐰\n𐐱\n𐐲\n𐐳\n𐐴\n𐐵\n𐐶\n𐐷\n𐐸\n𐐹\n𐐺\n𐐻\n𐐼\n𐐽"),
   (0x10416, "𐐾\n𐐿\n𐑀\n𐑁\n𐑂\n𐑃\n𐑄\n𐑅\n𐑆\n𐑇\n𐑈\n𐑉\n𐑊\n𐑋\n𐑌\n𐑍\n𐑎\n𐑏"),
   (0x104B0, "𐓘\n𐓙\n𐓚\n𐓛\n𐓜\n𐓝\n𐓞\n𐓟\n𐓠\n𐓡\n𐓢\n𐓣\n𐓤\n𐓥\n𐓦\n𐓧\n𐓨\n𐓩\n𐓪\n𐓫\n𐓬\n𐓭"),
   (0x104C6, "𐓮\n𐓯\n𐓰\n𐓱\n𐓲\n𐓳\n𐓴\n𐓵\n𐓶\n𐓷\n𐓸\n𐓹\n𐓺\n𐓻"),
   (0x10570, "𐖗\n𐖘\n𐖙\n𐖚\n𐖛\n𐖜\n𐖝\n𐖞\n𐖟\n𐖠\n𐖡"),
   (0x1057C, "𐖣\n𐖤\n𐖥\n𐖦\n𐖧\n𐖨\n𐖩\n𐖪\n𐖫\n𐖬\n𐖭\n𐖮\n𐖯\n𐖰\n𐖱"), (0x1058C, "𐖳\n𐖴\n𐖵\n𐖶\n𐖷\n𐖸\n𐖹"),
   (0x10594, "𐖻\n𐖼"),
   (0x10C80, "𐳀\n𐳁\n𐳂\n𐳃\n𐳄\n𐳅\n𐳆\n𐳇\n𐳈\n𐳉\n𐳊\n𐳋\n𐳌\n𐳍\n𐳎\n𐳏\n𐳐\n𐳑\n𐳒\n𐳓\n𐳔\n𐳕"),
   (0x10C96, "𐳖\n𐳗\n𐳘\n𐳙\n𐳚\n𐳛\n𐳜\n𐳝\n𐳞\n𐳟\n𐳠\n𐳡\n𐳢\n𐳣\n𐳤\n𐳥\n𐳦\n𐳧\n𐳨\n𐳩\n𐳪\n𐳫"),
   (0x10CAC, "𐳬\n𐳭\n𐳮\n𐳯\n𐳰\n𐳱\n𐳲"),
   (0x118A0, "𑣀\n𑣁\n𑣂\n𑣃\n𑣄\n𑣅\n𑣆\n𑣇\n𑣈\n𑣉\n𑣊\n𑣋\n𑣌\n𑣍\n𑣎\n𑣏\n𑣐\n𑣑\n𑣒\n𑣓\n𑣔\n𑣕"),
   (0x118B6, "𑣖\n𑣗\n𑣘\n𑣙\n𑣚\n𑣛\n𑣜\n𑣝\n𑣞\n𑣟"),
   (0x16E40, "𖹠\n𖹡\n𖹢\n𖹣\n𖹤\n𖹥\n𖹦\n𖹧\n𖹨\n𖹩\n𖹪\n𖹫\n𖹬\n𖹭\n𖹮\n𖹯\n𖹰\n𖹱\n𖹲\n𖹳\n𖹴\n𖹵"),
   (0x16E56, "𖹶\n𖹷\n𖹸\n𖹹\n𖹺\n𖹻\n𖹼\n𖹽\n𖹾\n𖹿"), (0x1D15E, "𝅗𝅥\n𝅘𝅥\n𝅘𝅥𝅮\n𝅘𝅥𝅯\n𝅘𝅥𝅰\n𝅘𝅥𝅱\n𝅘𝅥𝅲"),
   (0x1D1BB, "𝆹𝅥\n𝆺𝅥\n𝆹𝅥𝅮\n𝆺𝅥𝅮\n𝆹𝅥𝅯\n𝆺𝅥𝅯"),
   (0x1D400, "a\nb\nc\nd\ne\nf\ng\nh\ni\nj\nk\nl\nm\nn\no\np\nq\nr\ns\nt\nu\nv"),
   (0x1D416, "w\nx\ny\nz\na\nb\nc\nd\ne\nf\ng\nh\ni\nj\nk\nl\nm\nn\no\np\nq\nr"),
   (0x1D42C, "s\nt\nu\nv\nw\nx\ny\nz\na\nb\nc\nd\ne\nf\ng\nh\ni\nj\nk\nl\nm\nn"),
   (0x1D442, "o\np\nq\nr\ns\nt\nu\nv\nw\nx\ny\nz\na\nb\nc\nd\ne\nf\ng"),
   (0x1D456, "i\nj\nk\nl\nm\nn\no\np\nq\nr\ns\nt\nu\nv\nw\nx\ny\nz\na\nb\nc\nd"),
   (0x1D46C, "e\nf\ng\nh\ni\nj\nk\nl\nm\nn\no\np\nq\nr\ns\nt\nu\nv\nw\nx\ny\nz"),
   (0x1D482, "a\nb\nc\nd\ne\nf\ng\nh\ni\nj\nk\nl\nm\nn\no\np\nq\nr\ns\nt\nu\nv"),
   (0x1D498, "w\nx\ny\nz\na"), (0x1D49E, "c\nd"), (0x1D4A2, "g"), (0x1D4A5, "j\nk"),
   (0x1D4A9, "n\no\np\nq"), (0x1D4AE, "s\nt\nu\nv\nw\nx\ny\nz\na\nb\nc\nd"), (0x1D4BB, "f"),
   (0x1D4BD, "h\ni\nj\nk"), (0x1D4C2, "m\nn"),
   (0x1D4C5, "p\nq\nr\ns\nt\nu\nv\nw\nx\ny\nz\na\nb\nc\nd\ne\nf\ng\nh\ni\nj\nk"),
   (0x1D4DB, "l\nm\nn\no\np\nq\nr\ns\nt\nu\nv\nw\nx\ny\nz\na\nb\nc\nd\ne\nf\ng"),
   (0x1D4F1, "h\ni\nj\nk\nl\nm\nn\no\np\nq\nr\ns\nt\nu\nv\nw\nx\ny\nz\na\nb"),
   (0x1D507, "d\ne\nf\ng"), (0x1D50D, "j\nk\nl\nm\nn\no\np\nq"), (0x1D516, "s\nt\nu\nv\nw\nx\ny"),
   (0x1D51E, "a\nb\nc\nd\ne\nf\ng\nh\ni\nj\nk\nl\nm\nn\no\np\nq\nr\ns\nt\nu\nv"),
   (0x1D534, "w\nx\ny\nz\na\nb"), (0x1D53B, "d\ne\nf\ng"), (0x1D540, "i\nj\nk\nl\nm"),
   (0x1D546, "o"), (0x1D54A, "s\nt\nu\nv\nw\nx\ny"),
   (0x1D552, "a\nb\nc\nd\ne\nf\ng\nh\ni\nj\nk\nl\nm\nn\no\np\nq\nr\ns\nt\nu\nv"),
   (0x1D568, "w\nx\ny\nz\na\nb\nc\nd\ne\nf\ng\nh\ni\nj\nk\nl\nm\nn\no\np\nq\nr"),
   (0x1D57E, "s\nt\nu\nv\nw\nx\ny\nz\na\nb\nc\nd\ne\nf\ng\nh\ni\nj\nk\nl\nm\nn"),
   (0x1D594, "o\np\nq\nr\ns\nt\nu\nv\nw\nx\ny\nz\na\nb\nc\nd\ne\nf\ng\nh\ni\nj"),
   (0x1D5AA, "k\nl\nm\nn\no\np\nq\nr\ns\nt\nu\nv\nw\nx\ny\nz\na\nb\nc\nd\ne\nf"),
   (0x1D5C0, "g\nh\ni\nj\nk\nl\nm\nn\no\np\nq\nr\ns\nt\nu\nv\nw\nx\ny\nz\na\nb"),
   (0x1D5D6, "c\nd\ne\nf\ng\nh\ni\nj\nk\nl\nm\nn\no\np\nq\nr\ns\nt\nu\nv\nw\nx"),
   (0x1D5EC, "y\nz\na\nb\nc\nd\ne\nf\ng\nh\ni\nj\nk\nl\nm\nn\no\np\nq\nr\ns\nt"),
   (0x1D602, "u\nv\nw\nx\ny\nz\na\nb\nc\nd\ne\nf\ng\nh\ni\nj\nk\nl\nm\nn\no\np"),
   (0x1D618, "q\nr\ns\nt\nu\nv\nw\nx\ny\nz\na\nb\nc\nd\ne\nf\ng\nh\ni\nj\nk\nl"),
   (0x1D62E, "m\nn\no\np\nq\nr\ns\nt\nu\nv\nw\nx\ny\nz\na\nb\nc\nd\ne\nf\ng\nh"),
   (0x1D644, "i\nj\nk\nl\nm\nn\no\np\nq\nr\ns\nt\nu\nv\nw\nx\ny\nz\na\nb\nc\nd"),
   (0x1D65A, "e\nf\ng\nh\ni\nj\nk\nl\nm\nn\no\np\nq\nr\ns\nt\nu\nv\nw\nx\ny\nz"),
   (0x1D670, "a\nb\nc\nd\ne\nf\ng\nh\ni\nj\nk\nl\nm\nn\no\np\nq\nr\ns\nt\nu\nv"),
   (0x1D686, "w\nx\ny\nz\na\nb\nc\nd\ne\nf\ng\nh\ni\nj\nk\nl\nm\nn\no\np\nq\nr"),
   (0x1D69C, "s\nt\nu\nv\nw\nx\ny\nz"),
   (0x1D6A8, "α\nβ\nγ\nδ\nε\nζ\nη\nθ\nι\nκ\nλ\nμ\nν\nξ\nο\nπ\nρ\nθ\nσ\nτ\nυ\nφ"),
   (0x1D6BE, "χ\nψ\nω\n∇\nα\nβ\nγ\nδ\nε\nζ\nη\nθ\nι\nκ\nλ\nμ\nν\nξ\nο\nπ\nρ\nσ"),
   (0x1D6D4, "σ\nτ\nυ\nφ\nχ\nψ\nω\n∂\nε\nθ\nκ\nφ\nρ\nπ\nα\nβ\nγ\nδ\nε\nζ\nη\nθ"),
   (0x1D6EA, "ι\nκ\nλ\nμ\nν\nξ\nο\nπ\nρ\nθ\nσ\nτ\nυ\nφ\nχ\nψ\nω\n∇\nα\nβ\nγ\nδ"),
   (0x1D700, "ε\nζ\nη\nθ\nι\nκ\nλ\nμ\nν\nξ\nο\nπ\nρ\nσ\nσ\nτ\nυ\nφ\nχ\nψ\nω\n∂"),
   (0x1D716, "ε\nθ\nκ\nφ\nρ\nπ\nα\nβ\nγ\nδ\nε\nζ\nη\nθ\nι\nκ\nλ\nμ\nν\nξ\nο\nπ"),
   (0x1D72C, "ρ\nθ\nσ\nτ\nυ\nφ\nχ\nψ\nω\n∇\nα\nβ\nγ\nδ\nε\nζ\nη\nθ\nι\nκ\nλ\nμ"),
   (0x1D742, "ν\nξ\nο\nπ\nρ\nσ\nσ\nτ\nυ\nφ\nχ\nψ\nω\n∂\nε\nθ\nκ\nφ\nρ\nπ\nα\nβ"),
   (0x1D758, "γ\nδ\nε\nζ\nη\nθ\nι\nκ\nλ\nμ\nν\nξ\nο\nπ\nρ\nθ\nσ\nτ\nυ\nφ\nχ\nψ"),
   (0x1D76E, "ω\n∇\nα\nβ\nγ\nδ\nε\nζ\nη\nθ\nι\nκ\nλ\nμ\nν\nξ\nο\nπ\nρ\nσ\nσ\nτ"),
   (0x1D784, "υ\nφ\nχ\nψ\nω\n∂\nε\nθ\nκ\nφ\nρ\nπ\nα\nβ\nγ\nδ\nε\nζ\nη\nθ\nι\nκ"),
   (0x1D79A, "λ\nμ\nν\nξ\nο\nπ\nρ\nθ\nσ\nτ\nυ\nφ\nχ\nψ\nω\n∇\nα\nβ\nγ\nδ\nε\nζ"),
   (0x1D7B0, "η\nθ\nι\nκ\nλ\nμ\nν\nξ\nο\nπ\nρ\nσ\nσ\nτ\nυ\nφ\nχ\nψ\nω\n∂\nε\nθ"),
   (0x1D7C6, "κ\nφ\nρ\nπ"),
   (0x1D7CE, "0\n1\n2\n3\n4\n5\n6\n7\n8\n9\n0\n1\n2\n3\n4\n5\n6\n7\n8\n9\n0\n1"),
   (0x1D7E4, "2\n3\n4\n5\n6\n7\n8\n9\n0\n1\n2\n3\n4\n5\n6\n7\n8\n9\n0\n1\n2\n3"),
   (0x1D7FA, "4\n5\n6\n7\n8\n9"),
   (0x1E900, "𞤢\n𞤣\n𞤤\n𞤥\n𞤦\n𞤧\n𞤨\n𞤩\n𞤪\n𞤫\n𞤬\n𞤭\n𞤮\n𞤯\n𞤰\n𞤱\n𞤲\n𞤳\n𞤴\n𞤵\n𞤶\n𞤷"),
   (0x1E916, "𞤸\n𞤹\n𞤺\n𞤻\n𞤼\n𞤽\n𞤾\n𞤿\n𞥀\n𞥁\n𞥂\n𞥃"),
   (0x2F800, "丽\n丸\n乁\n𠄢\n你\n侮\n侻\n倂\n偺\n備\n僧\n像\n㒞\n𠘺\n免\n兔\n兤\n具\n𠔜\n㒹\n內\n再"),
   (0x2F816, "𠕋\n冗\n冤\n仌\n冬\n况\n𩇟\n凵\n刃\n㓟\n刻\n剆\n割\n剷\n㔕\n勇\n勉\n勤\n勺\n包\n匆\n北"),
   (0x2F82C, "卉\n卑\n博\n即\n卽\n卿\n卿\n卿\n𠨬\n灰\n及\n叟\n𠭣\n叫\n叱\n吆\n咞\n吸\n呈\n周\n咢\n哶"),
   (0x2F842, "唐\n啓\n啣\n善\n善\n喙\n喫\n喳\n嗂\n圖\n嘆\n圗\n噑\n噴\n切\n壮\n城\n埴\n堍\n型\n堲\n報"),
   (0x2F858, "墬\n𡓤\n売\n壷\n夆\n多\n夢\n奢\n𡚨\n𡛪\n姬\n娛\n娧\n姘\n婦\n㛮\n𡍪\n嬈\n嬾\n嬾\n𡧈\n寃"),
   (0x2F86E, "寘\n寧\n寳\n𡬘\n寿\n将\n弳\n尢\n㞁\n屠\n屮\n峀\n岍\n𡷤\n嵃\n𡷦\n嵮\n嵫\n嵼\n巡\n巢\n㠯"),
   (0x2F884, "巽\n帨\n帽\n幩\n㡢\n𢆃\n㡼\n庰\n庳\n庶\n廊\n𪎒\n廾\n𢌱\n𢌱\n舁\n弢\n弢\n㣇\n𣊸\n𦇚\n形"),
   (0x2F89A, "彫\n㣣\n徚\n忍\n志\n忹\n悁\n㤺\n㤜\n悔\n𢛔\n惇\n慈\n慌\n慎\n慌\n慺\n憎\n憲\n憤\n憯\n懞"),
   (0x2F8B0, "懲\n懶\n成\n戛\n扝\n抱\n拔\n捐\n𢬌\n挽\n拼\n捨\n掃\n揤\n𢯱\n搢\n揅\n掩\n㨮\n摩\n摾\n撝"),
   (0x2F8C6, "摷\n㩬\n敏\n敬\n𣀊\n旣\n書\n晉\n㬙\n暑\n㬈\n㫤\n冒\n冕\n最\n暜\n肭\n䏙\n朗\n望\n朡\n杞"),
   (0x2F8DC, "杓\n𣏃\n㭉\n柺\n枅\n桒\n梅\n𣑭\n梎\n栟\n椔\n㮝\n楂\n榣\n槪\n檨\n𣚣\n櫛\n㰘\n次\n𣢧\n歔"),
   (0x2F8F2, "㱎\n歲\n殟\n殺\n殻\n𣪍\n𡴋\n𣫺\n汎\n𣲼\n沿\n泍\n汧\n洖\n派\n海\n流\n浩\n浸\n涅\n𣴞\n洴"),
   (0x2F908, "港\n湮\n㴳\n滋\n滇\n𣻑\n淹\n潮\n𣽞\n𣾎\n濆\n瀹\n瀞\n瀛\n㶖\n灊\n災\n灷\n炭\n𠔥\n煅\n𤉣"),
   (0x2F91E, "熜\n䎫\n爨\n爵\n牐\n𤘈\n犀\n犕\n𤜵\n𤠔\n獺\n王\n㺬\n玥\n㺸\n㺸\n瑇\n瑜\n瑱\n璅\n瓊\n㼛"),
   (0x2F934, "甤\n𤰶\n甾\n𤲒\n異\n𢆟\n瘐\n𤾡\n𤾸\n𥁄\n㿼\n䀈\n直\n𥃳\n𥃲\n𥄙\n𥄳\n眞\n真\n真\n睊\n䀹"),
   (0x2F94A, "瞋\n䁆\n䂖\n𥐝\n硎\n碌\n磌\n䃣\n𥘦\n祖\n𥚚\n𥛅\n福\n秫\n䄯\n穀\n穊\n穏\n𥥼\n𥪧\n𥪧\n窮"),
   (0x2F960, "䈂\n𥮫\n篆\n築\n䈧\n𥲀\n糒\n䊠\n糨\n糣\n紀\n𥾆\n絣\n䌁\n緇\n縂\n繅\n䌴\n𦈨\n𦉇\n䍙\n𦋙"),
   (0x2F976, "罺\n𦌾\n羕\n翺\n者\n𦓚\n𦔣\n聠\n𦖨\n聰\n𣍟\n䏕\n育\n脃\n䐋\n脾\n媵\n𦞧\n𦞵\n𣎓\n𣎜\n舁"),
   (0x2F98C, "舄\n辞\n䑫\n芑\n芋\n芝\n劳\n花\n芳\n芽\n苦\n𦬼\n若\n茝\n荣\n莭\n茣\n莽\n菧\n著\n荓\n菊"),
   (0x2F9A2, "菌\n菜\n𦰶\n𦵫\n𦳕\n䔫\n蓱\n蓳\n蔖\n𧏊\n蕤\n𦼬\n䕝\n䕡\n𦾱\n𧃒\n䕫\n虐\n虜\n虧\n虩\n蚩"),
   (0x2F9B8, "蚈\n蜎\n蛢\n蝹\n蜨\n蝫\n螆\n䵗\n蟡\n蠁\n䗹\n衠\n衣\n𧙧\n裗\n裞\n䘵\n裺\n㒻\n𧢮\n𧥦\n䚾"),
   (0x2F9CE, "䛇\n誠\n諭\n變\n豕\n𧲨\n貫\n賁\n贛\n起\n𧼯\n𠠄\n跋\n趼\n跰\n𠣞\n軔\n輸\n𨗒\n𨗭\n邔\n郱"),
   (0x2F9E4, "鄑\n𨜮\n鄛\n鈸\n鋗\n鋘\n鉼\n鏹\n鐕\n𨯺\n開\n䦕\n閷\n𨵷\n䧦\n雃\n嶲\n霣\n𩅅\n𩈚\n䩮\n䩶"),
   (0x2F9FA, "韠\n𩐊\n䪲\n𩒖\n頋\n頋\n頩\n𩖶\n飢\n䬳\n餩\n馧\n駂\n駾\n䯎\n𩬰\n鬒\n鱀\n鳽\n䳎\n䳭\n鵧"),
   (0x2FA10, "𪃎\n䳸\n𪄅\n𪈎\n𪊑\n麻\n䵖\n黹\n黾\n鼅\n鼏\n鼖\n鼻\n𪘀")]

end Scriptlet.Text
