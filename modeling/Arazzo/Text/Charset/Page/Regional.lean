import Arazzo.Text.Charset.Page

/-!
# Regional pages

Pages of single countries and devices.
-/

namespace Arazzo
namespace Text
namespace Charset
namespace Page

def koi8R : Page := ⟨0x80,
  ["─│┌┐└┘├┤┬┴┼▀▄█▌▐",
   "░▒▓⌠■∙√≈≤≥\u00a0⌡°²·÷",
   "═║╒ё╓╔╕╖╗╘╙╚╛╜╝╞",
   "╟╠╡Ё╢╣╤╥╦╧╨╩╪╫╬©",
   "юабцдефгхийклмно",
   "пярстужвьызшэщчъ",
   "ЮАБЦДЕФГХИЙКЛМНО",
   "ПЯРСТУЖВЬЫЗШЭЩЧЪ"]⟩

def koi8T : Page := ⟨0x80,
  ["қғ‚Ғ„…†‡�‰ҳ‹ҲҷҶ�",
   "Қ‘’“”•–—�™�›����",
   "�ӯӮё¤ӣ¦§���«¬\u00ad®�",
   "°±²Ё�Ӣ¶·�№�»���©",
   "юабцдефгхийклмно",
   "пярстужвьызшэщчъ",
   "ЮАБЦДЕФГХИЙКЛМНО",
   "ПЯРСТУЖВЬЫЗШЭЩЧЪ"]⟩

def koi8U : Page := ⟨0x80,
  ["─│┌┐└┘├┤┬┴┼▀▄█▌▐",
   "░▒▓⌠■∙√≈≤≥\u00a0⌡°²·÷",
   "═║╒ёє╔ії╗╘╙╚╛ґ╝╞",
   "╟╠╡ЁЄ╣ІЇ╦╧╨╩╪Ґ╬©",
   "юабцдефгхийклмно",
   "пярстужвьызшэщчъ",
   "ЮАБЦДЕФГХИЙКЛМНО",
   "ПЯРСТУЖВЬЫЗШЭЩЧЪ"]⟩

def kz1048 : Page := ⟨0x80,
  ["ЂЃ‚ѓ„…†‡€‰Љ‹ЊҚҺЏ",
   "ђ‘’“”•–—�™љ›њқһџ",
   "\u00a0ҰұӘ¤Ө¦§Ё©Ғ«¬\u00ad®Ү",
   "°±Ііөµ¶·ё№ғ»әҢңү",
   "АБВГДЕЖЗИЙКЛМНОП",
   "РСТУФХЦЧШЩЪЫЬЭЮЯ",
   "абвгдежзийклмноп",
   "рстуфхцчшщъыьэюя"]⟩

def ptcp154 : Page := ⟨0x80,
  ["ҖҒӮғ„…ҶҮҲүҠӢҢҚҺҸ",
   "җ‘’“”•–—ҳҷҡӣңқһҹ",
   "\u00a0ЎўЈӨҘҰ§Ё©Ә«¬ӯ®Ҝ",
   "°ұІіҙө¶·ё№ә»јҪҫҝ",
   "АБВГДЕЖЗИЙКЛМНОП",
   "РСТУФХЦЧШЩЪЫЬЭЮЯ",
   "абвгдежзийклмноп",
   "рстуфхцчшщъыьэюя"]⟩

def tis620 : Page := ⟨0xA0,
  ["�กขฃคฅฆงจฉชซฌญฎฏ",
   "ฐฑฒณดตถทธนบปผฝพฟ",
   "ภมยรฤลฦวศษสหฬอฮฯ",
   "ะ\u0e31าำ\u0e34\u0e35\u0e36\u0e37\u0e38\u0e39\u0e3a����฿",
   "เแโใไๅๆ\u0e47\u0e48\u0e49\u0e4a\u0e4b\u0e4c\u0e4d\u0e4e๏",
   "๐๑๒๓๔๕๖๗๘๙๚๛"]⟩

def hpRoman8 : Page := ⟨0xA0,
  ["\u00a0ÀÂÈÊËÎÏ´ˋˆ¨˜ÙÛ₤",
   "¯Ýý°ÇçÑñ¡¿¤£¥§ƒ¢",
   "âêôûáéóúàèòùäëöü",
   "ÅîØÆåíøæÄìÖÜÉïßÔ",
   "ÁÃãÐðÍÌÓÒÕõŠšÚŸÿ",
   "Þþ·µ¶¾—¼½ªº«■»±"]⟩

def palmos : Page := ⟨0x80,
  ["€\x81‚ƒ„…†‡ˆ‰Š‹Œ♦♣♥",
   "♠‘’“”•–—˜™š\x9bœ\x9d\x9eŸ",
   "\u00a0¡¢£¤¥¦§¨©ª«¬\u00ad®¯",
   "°±²³´µ¶·¸¹º»¼½¾¿",
   "ÀÁÂÃÄÅÆÇÈÉÊËÌÍÎÏ",
   "ÐÑÒÓÔÕÖ×ØÙÚÛÜÝÞß",
   "àáâãäåæçèéêëìíîï",
   "ðñòóôõö÷øùúûüýþÿ"]⟩

def cp1006 : Page := ⟨0xA0,
  ["\u00a0۰۱۲۳۴۵۶۷۸۹،\u061b\u00ad\u061f\ufe81",
   "\ufe8d\ufe8e\ufe8e\ufe8f\ufe91\ufb56\ufb58\ufe93\ufe95\ufe97\ufb66\ufb68\ufe99\ufe9b\ufe9d\ufe9f",
   "\ufb7a\ufb7c\ufea1\ufea3\ufea5\ufea7\ufea9\ufb84\ufeab\ufead\ufb8c\ufeaf\ufb8a\ufeb1\ufeb3\ufeb5",
   "\ufeb7\ufeb9\ufebb\ufebd\ufebf\ufec1\ufec5\ufec9\ufeca\ufecb\ufecc\ufecd\ufece\ufecf\ufed0\ufed1",
   "\ufed3\ufed5\ufed7\ufed9\ufedb\ufb92\ufb94\ufedd\ufedf\ufee0\ufee1\ufee3\ufb9e\ufee5\ufee7\ufe85",
   "\ufeed\ufba6\ufba8\ufba9\ufbaa\ufe80\ufe89\ufe8a\ufe8b\ufef1\ufef2\ufef3\ufbb0\ufbae\ufe7c\ufe7d"]⟩

end Page
end Charset
end Text
end Arazzo
