import Arazzo.Text.Charset
import Arazzo.Text.Charset.Page.Dos
import Arazzo.Text.Charset.Page.Ebcdic
import Arazzo.Text.Charset.Page.Mac
import Arazzo.Text.Charset.Page.Regional
import Arazzo.Text.Charset.Page.Windows
import Arazzo.Text.CodeSet
import Arazzo.Text.Trim

/-!
# Names of charsets

A charset has a name of its own and aliases. Case does not matter in a name, and neither does what stands
between its letters, digits and points. An alias may also be written with points between its parts.
-/

namespace Arazzo
namespace Text
namespace Charset

structure Listing where
  name : String
  charset : Charset
  aliases : List String

/-- The charsets that are known by name. -/
def listings : List Listing :=
  [⟨"ascii", .page .ascii, ["646", "ansi_x3.4_1968", "ansi_x3.4_1986", "ansi_x3_4_1968", "cp367",
     "csascii", "ibm367", "iso646_us", "iso_646.irv_1991", "iso_ir_6", "us", "us_ascii"]⟩,
   ⟨"latin_1", .page .latin1, ["8859", "cp819", "csisolatin1", "ibm819", "iso8859", "iso8859_1",
     "iso_8859_1", "iso_8859_1_1987", "iso_ir_100", "l1", "latin", "latin1"]⟩,
   ⟨"charmap", .page .latin1, []⟩,
   ⟨"iso8859_1", .page .latin1, []⟩,
   ⟨"utf_8", .utf8, ["cp65001", "u8", "utf", "utf8", "utf8_ucs2", "utf8_ucs4"]⟩,
   ⟨"utf_8_sig", .utf8Marked, []⟩,
   ⟨"utf_7", .utf7, ["u7", "unicode_1_1_utf_7", "utf7"]⟩,
   ⟨"utf_16", .utf16 none, ["u16", "utf16"]⟩,
   ⟨"utf_16_be", .utf16 (some true), ["unicodebigunmarked", "utf_16be"]⟩,
   ⟨"utf_16_le", .utf16 (some false), ["unicodelittleunmarked", "utf_16le"]⟩,
   ⟨"utf_32", .utf32 none, ["u32", "utf32"]⟩,
   ⟨"utf_32_be", .utf32 (some true), ["utf_32be"]⟩,
   ⟨"utf_32_le", .utf32 (some false), ["utf_32le"]⟩,
   ⟨"unicode_escape", .escaped, []⟩,
   ⟨"raw_unicode_escape", .escapedCodePoints, []⟩,
   ⟨"punycode", .punycode, []⟩,
   ⟨"iso8859_2", .page Page.iso8859_2, ["csisolatin2", "iso_8859_2", "iso_8859_2_1987",
     "iso_ir_101", "l2", "latin2"]⟩,
   ⟨"iso8859_3", .page Page.iso8859_3, ["csisolatin3", "iso_8859_3", "iso_8859_3_1988",
     "iso_ir_109", "l3", "latin3"]⟩,
   ⟨"iso8859_4", .page Page.iso8859_4, ["csisolatin4", "iso_8859_4", "iso_8859_4_1988",
     "iso_ir_110", "l4", "latin4"]⟩,
   ⟨"iso8859_5", .page Page.iso8859_5, ["csisolatincyrillic", "cyrillic", "iso_8859_5",
     "iso_8859_5_1988", "iso_ir_144"]⟩,
   ⟨"iso8859_6", .page Page.iso8859_6, ["arabic", "asmo_708", "csisolatinarabic", "ecma_114",
     "iso_8859_6", "iso_8859_6_1987", "iso_ir_127"]⟩,
   ⟨"iso8859_7", .page Page.iso8859_7, ["csisolatingreek", "ecma_118", "elot_928", "greek",
     "greek8", "iso_8859_7", "iso_8859_7_1987", "iso_ir_126"]⟩,
   ⟨"iso8859_8", .page Page.iso8859_8, ["csisolatinhebrew", "hebrew", "iso_8859_8",
     "iso_8859_8_1988", "iso_ir_138"]⟩,
   ⟨"iso8859_9", .page Page.iso8859_9, ["csisolatin5", "iso_8859_9", "iso_8859_9_1989",
     "iso_ir_148", "l5", "latin5"]⟩,
   ⟨"iso8859_10", .page Page.iso8859_10, ["csisolatin6", "iso_8859_10", "iso_8859_10_1992",
     "iso_ir_157", "l6", "latin6"]⟩,
   ⟨"iso8859_11", .page Page.iso8859_11, ["iso_8859_11", "iso_8859_11_2001", "thai"]⟩,
   ⟨"iso8859_13", .page Page.iso8859_13, ["iso_8859_13", "l7", "latin7"]⟩,
   ⟨"iso8859_14", .page Page.iso8859_14, ["iso_8859_14", "iso_8859_14_1998", "iso_celtic",
     "iso_ir_199", "l8", "latin8"]⟩,
   ⟨"iso8859_15", .page Page.iso8859_15, ["iso_8859_15", "l9", "latin9"]⟩,
   ⟨"iso8859_16", .page Page.iso8859_16, ["iso_8859_16", "iso_8859_16_2001", "iso_ir_226", "l10",
     "latin10"]⟩,
   ⟨"cp874", .page Page.cp874, []⟩,
   ⟨"cp1250", .page Page.cp1250, ["1250", "windows_1250"]⟩,
   ⟨"cp1251", .page Page.cp1251, ["1251", "windows_1251"]⟩,
   ⟨"cp1252", .page Page.cp1252, ["1252", "windows_1252"]⟩,
   ⟨"cp1253", .page Page.cp1253, ["1253", "windows_1253"]⟩,
   ⟨"cp1254", .page Page.cp1254, ["1254", "windows_1254"]⟩,
   ⟨"cp1255", .page Page.cp1255, ["1255", "windows_1255"]⟩,
   ⟨"cp1256", .page Page.cp1256, ["1256", "windows_1256"]⟩,
   ⟨"cp1257", .page Page.cp1257, ["1257", "windows_1257"]⟩,
   ⟨"cp1258", .page Page.cp1258, ["1258", "windows_1258"]⟩,
   ⟨"cp437", .page Page.cp437, ["437", "cspc8codepage437", "ibm437"]⟩,
   ⟨"cp720", .page Page.cp720, []⟩,
   ⟨"cp737", .page Page.cp737, []⟩,
   ⟨"cp775", .page Page.cp775, ["775", "cspc775baltic", "ibm775"]⟩,
   ⟨"cp850", .page Page.cp850, ["850", "cspc850multilingual", "ibm850"]⟩,
   ⟨"cp852", .page Page.cp852, ["852", "cspcp852", "ibm852"]⟩,
   ⟨"cp855", .page Page.cp855, ["855", "csibm855", "ibm855"]⟩,
   ⟨"cp856", .page Page.cp856, []⟩,
   ⟨"cp857", .page Page.cp857, ["857", "csibm857", "ibm857"]⟩,
   ⟨"cp858", .page Page.cp858, ["858", "csibm858", "ibm858"]⟩,
   ⟨"cp860", .page Page.cp860, ["860", "csibm860", "ibm860"]⟩,
   ⟨"cp861", .page Page.cp861, ["861", "cp_is", "csibm861", "ibm861"]⟩,
   ⟨"cp862", .page Page.cp862, ["862", "cspc862latinhebrew", "ibm862"]⟩,
   ⟨"cp863", .page Page.cp863, ["863", "csibm863", "ibm863"]⟩,
   ⟨"cp864", .page Page.cp864, ["864", "csibm864", "ibm864"]⟩,
   ⟨"cp865", .page Page.cp865, ["865", "csibm865", "ibm865"]⟩,
   ⟨"cp866", .page Page.cp866, ["866", "csibm866", "ibm866"]⟩,
   ⟨"cp869", .page Page.cp869, ["869", "cp_gr", "csibm869", "ibm869"]⟩,
   ⟨"cp1125", .page Page.cp1125, ["1125", "cp866u", "ibm1125", "ruscii"]⟩,
   ⟨"mac_arabic", .page Page.macArabic, []⟩,
   ⟨"mac_croatian", .page Page.macCroatian, []⟩,
   ⟨"mac_cyrillic", .page Page.macCyrillic, ["maccyrillic"]⟩,
   ⟨"mac_farsi", .page Page.macFarsi, []⟩,
   ⟨"mac_greek", .page Page.macGreek, ["macgreek"]⟩,
   ⟨"mac_iceland", .page Page.macIceland, ["maciceland"]⟩,
   ⟨"mac_latin2", .page Page.macLatin2, ["mac_centeuro", "maccentraleurope", "maclatin2"]⟩,
   ⟨"mac_roman", .page Page.macRoman, ["macintosh", "macroman"]⟩,
   ⟨"mac_romanian", .page Page.macRomanian, []⟩,
   ⟨"mac_turkish", .page Page.macTurkish, ["macturkish"]⟩,
   ⟨"cp037", .page Page.cp037, ["037", "csibm037", "ebcdic_cp_ca", "ebcdic_cp_nl",
     "ebcdic_cp_us", "ebcdic_cp_wt", "ibm037", "ibm039"]⟩,
   ⟨"cp273", .page Page.cp273, ["273", "csibm273", "ibm273"]⟩,
   ⟨"cp424", .page Page.cp424, ["424", "csibm424", "ebcdic_cp_he", "ibm424"]⟩,
   ⟨"cp500", .page Page.cp500, ["500", "csibm500", "ebcdic_cp_be", "ebcdic_cp_ch", "ibm500"]⟩,
   ⟨"cp875", .page Page.cp875, []⟩,
   ⟨"cp1026", .page Page.cp1026, ["1026", "csibm1026", "ibm1026"]⟩,
   ⟨"cp1140", .page Page.cp1140, ["1140", "ibm1140"]⟩,
   ⟨"koi8_r", .page Page.koi8R, ["cskoi8r"]⟩,
   ⟨"koi8_t", .page Page.koi8T, []⟩,
   ⟨"koi8_u", .page Page.koi8U, []⟩,
   ⟨"kz1048", .page Page.kz1048, ["kz_1048", "rk1048", "strk1048_2002"]⟩,
   ⟨"ptcp154", .page Page.ptcp154, ["cp154", "csptcp154", "cyrillic_asian", "pt154"]⟩,
   ⟨"tis_620", .page Page.tis620, ["iso_ir_166", "tis620", "tis_620_0", "tis_620_2529_0",
     "tis_620_2529_1"]⟩,
   ⟨"hp_roman8", .page Page.hpRoman8, ["cp1051", "csHPRoman8", "ibm1051", "r8", "roman8"]⟩,
   ⟨"palmos", .page Page.palmos, []⟩,
   ⟨"cp1006", .page Page.cp1006, []⟩,
   ⟨"base64_codec", .binary, ["base64", "base_64"]⟩,
   ⟨"big5", .big5, ["big5_tw", "csbig5", "x_mac_trad_chinese"]⟩,
   ⟨"big5hkscs", .hongKong, ["big5_hkscs", "hkscs"]⟩,
   ⟨"bz2_codec", .binary, ["bz2"]⟩,
   ⟨"cp932", .codePage932, ["932", "ms932", "ms_kanji", "mskanji"]⟩,
   ⟨"cp949", .codePage949, ["949", "ms949", "uhc"]⟩,
   ⟨"cp950", .codePage950, ["950", "ms950"]⟩,
   ⟨"euc_jis_2004", .eucJapaneseExtended .of2004, ["euc_jis2004", "eucjis2004", "jisx0213"]⟩,
   ⟨"euc_jisx0213", .eucJapaneseExtended .of2000, ["eucjisx0213"]⟩,
   ⟨"euc_jp", .eucJapanese, ["eucjp", "u_jis", "ujis"]⟩,
   ⟨"euc_kr", .eucKorean, ["euckr", "korean", "ks_c_5601", "ks_c_5601_1987", "ks_x_1001",
     "ksc5601", "ksx1001", "x_mac_korean"]⟩,
   ⟨"gb18030", .gb18030, ["gb18030_2000"]⟩,
   ⟨"gb2312", .gb2312, ["chinese", "csiso58gb231280", "euc_cn", "euccn", "eucgb2312_cn",
     "gb2312_1980", "gb2312_80", "iso_ir_58", "x_mac_simp_chinese"]⟩,
   ⟨"gbk", .gbk, ["936", "cp936", "ms936"]⟩,
   ⟨"hex_codec", .binary, ["hex"]⟩,
   ⟨"hz", .gbEscaped, ["hz_gb", "hz_gb_2312", "hzgb"]⟩,
   ⟨"idna", .hostNames, []⟩,
   ⟨"iso2022_jp", .switched .japanese, ["csiso2022jp", "iso2022jp", "iso_2022_jp"]⟩,
   ⟨"iso2022_jp_1", .switched .japanese1, ["iso2022jp_1", "iso_2022_jp_1"]⟩,
   ⟨"iso2022_jp_2", .switched .japanese2, ["iso2022jp_2", "iso_2022_jp_2"]⟩,
   ⟨"iso2022_jp_2004", .switched .japanese2004, ["iso2022jp_2004", "iso_2022_jp_2004"]⟩,
   ⟨"iso2022_jp_3", .switched .japanese3, ["iso2022jp_3", "iso_2022_jp_3"]⟩,
   ⟨"iso2022_jp_ext", .switched .japaneseExtended, ["iso2022jp_ext", "iso_2022_jp_ext"]⟩,
   ⟨"iso2022_kr", .switched .korean, ["csiso2022kr", "iso2022kr", "iso_2022_kr"]⟩,
   ⟨"johab", .johab, ["cp1361", "ms1361"]⟩,
   ⟨"quopri_codec", .binary, ["quopri", "quoted_printable", "quotedprintable"]⟩,
   ⟨"rot_13", .lettersOnly, ["rot13"]⟩,
   ⟨"shift_jis", .shiftJis, ["csshiftjis", "s_jis", "shiftjis", "sjis", "x_mac_japanese"]⟩,
   ⟨"shift_jis_2004", .shiftJisExtended .of2004, ["s_jis_2004", "shiftjis2004", "sjis_2004"]⟩,
   ⟨"shift_jisx0213", .shiftJisExtended .of2000, ["s_jisx0213", "shiftjisx0213", "sjisx0213"]⟩,
   ⟨"undefined", .undefined, []⟩,
   ⟨"uu_codec", .binary, ["uu"]⟩,
   ⟨"zlib_codec", .binary, ["zip", "zlib"]⟩]

/-- A name with small letters and one underscore between its parts. -/
def normalName (name : List Char) : List Char :=
  lowerAscii (['_'].intercalate (piecesBetween (fun c => !(c.isAlphanum || c = '.')) name))

/-- The charset with a name. -/
def named? (name : List Char) : Option Charset :=
  let name := normalName name
  let listed (name : List Char) := listings.find? fun l => l.aliases.contains (String.ofList name)
  let own := if name.contains '.' then none
    else listings.find? fun l => l.name = String.ofList name
  (((listed name).or (listed (name.map fun c => if c = '.' then '_' else c))).or own).map
    Listing.charset

end Charset
end Text
end Arazzo
