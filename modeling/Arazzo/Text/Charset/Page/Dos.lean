import Arazzo.Text.Charset.Page

/-!
# Pages of DOS

The code pages with box drawings or accents in the upper half.
-/

namespace Arazzo
namespace Text
namespace Charset
namespace Page

def cp437 : Page := ⟨0x80,
  ["ÇüéâäàåçêëèïîìÄÅ",
   "ÉæÆôöòûùÿÖÜ¢£¥₧ƒ",
   "áíóúñÑªº¿⌐¬½¼¡«»",
   "░▒▓│┤╡╢╖╕╣║╗╝╜╛┐",
   "└┴┬├─┼╞╟╚╔╩╦╠═╬╧",
   "╨╤╥╙╘╒╓╫╪┘┌█▄▌▐▀",
   "αßΓπΣσµτΦΘΩδ∞φε∩",
   "≡±≥≤⌠⌡÷≈°∙·√ⁿ²■\u00a0"]⟩

def cp720 : Page := ⟨0x80,
  ["\x80\x81éâ\x84à\x86çêëèïî\x8d\x8e\x8f",
   "\x90\u0651\u0652ô¤\u0640ûù\u0621\u0622\u0623\u0624£\u0625\u0626\u0627",
   "\u0628\u0629\u062a\u062b\u062c\u062d\u062e\u062f\u0630\u0631\u0632\u0633\u0634\u0635«»",
   "░▒▓│┤╡╢╖╕╣║╗╝╜╛┐",
   "└┴┬├─┼╞╟╚╔╩╦╠═╬╧",
   "╨╤╥╙╘╒╓╫╪┘┌█▄▌▐▀",
   "\u0636\u0637\u0638\u0639\u063a\u0641µ\u0642\u0643\u0644\u0645\u0646\u0647\u0648\u0649\u064a",
   "≡\u064b\u064c\u064d\u064e\u064f\u0650≈°∙·√ⁿ²■\u00a0"]⟩

def cp737 : Page := ⟨0x80,
  ["ΑΒΓΔΕΖΗΘΙΚΛΜΝΞΟΠ",
   "ΡΣΤΥΦΧΨΩαβγδεζηθ",
   "ικλμνξοπρσςτυφχψ",
   "░▒▓│┤╡╢╖╕╣║╗╝╜╛┐",
   "└┴┬├─┼╞╟╚╔╩╦╠═╬╧",
   "╨╤╥╙╘╒╓╫╪┘┌█▄▌▐▀",
   "ωάέήϊίόύϋώΆΈΉΊΌΎ",
   "Ώ±≥≤ΪΫ÷≈°∙·√ⁿ²■\u00a0"]⟩

def cp775 : Page := ⟨0x80,
  ["ĆüéāäģåćłēŖŗīŹÄÅ",
   "ÉæÆōöĢ¢ŚśÖÜø£Ø×¤",
   "ĀĪóŻżź”¦©®¬½¼Ł«»",
   "░▒▓│┤ĄČĘĖ╣║╗╝ĮŠ┐",
   "└┴┬├─┼ŲŪ╚╔╩╦╠═╬Ž",
   "ąčęėįšųūž┘┌█▄▌▐▀",
   "ÓßŌŃõÕµńĶķĻļņĒŅ’",
   "\u00ad±“¾¶§÷„°∙·¹³²■\u00a0"]⟩

def cp850 : Page := ⟨0x80,
  ["ÇüéâäàåçêëèïîìÄÅ",
   "ÉæÆôöòûùÿÖÜø£Ø×ƒ",
   "áíóúñÑªº¿®¬½¼¡«»",
   "░▒▓│┤ÁÂÀ©╣║╗╝¢¥┐",
   "└┴┬├─┼ãÃ╚╔╩╦╠═╬¤",
   "ðÐÊËÈıÍÎÏ┘┌█▄¦Ì▀",
   "ÓßÔÒõÕµþÞÚÛÙýÝ¯´",
   "\u00ad±‗¾¶§÷¸°¨·¹³²■\u00a0"]⟩

def cp852 : Page := ⟨0x80,
  ["ÇüéâäůćçłëŐőîŹÄĆ",
   "ÉĹĺôöĽľŚśÖÜŤťŁ×č",
   "áíóúĄąŽžĘę¬źČş«»",
   "░▒▓│┤ÁÂĚŞ╣║╗╝Żż┐",
   "└┴┬├─┼Ăă╚╔╩╦╠═╬¤",
   "đĐĎËďŇÍÎě┘┌█▄ŢŮ▀",
   "ÓßÔŃńňŠšŔÚŕŰýÝţ´",
   "\u00ad˝˛ˇ˘§÷¸°¨˙űŘř■\u00a0"]⟩

def cp855 : Page := ⟨0x80,
  ["ђЂѓЃёЁєЄѕЅіІїЇјЈ",
   "љЉњЊћЋќЌўЎџЏюЮъЪ",
   "аАбБцЦдДеЕфФгГ«»",
   "░▒▓│┤хХиИ╣║╗╝йЙ┐",
   "└┴┬├─┼кК╚╔╩╦╠═╬¤",
   "лЛмМнНоОп┘┌█▄Пя▀",
   "ЯрРсСтТуУжЖвВьЬ№",
   "\u00adыЫзЗшШэЭщЩчЧ§■\u00a0"]⟩

def cp856 : Page := ⟨0x80,
  ["\u05d0\u05d1\u05d2\u05d3\u05d4\u05d5\u05d6\u05d7\u05d8\u05d9\u05da\u05db\u05dc\u05dd\u05de\u05df",
   "\u05e0\u05e1\u05e2\u05e3\u05e4\u05e5\u05e6\u05e7\u05e8\u05e9\u05ea�£�×�",
   "���������®¬½¼�«»",
   "░▒▓│┤���©╣║╗╝¢¥┐",
   "└┴┬├─┼��╚╔╩╦╠═╬¤",
   "���������┘┌█▄¦�▀",
   "������µ�������¯´",
   "\u00ad±‗¾¶§÷¸°¨·¹³²■\u00a0"]⟩

def cp857 : Page := ⟨0x80,
  ["ÇüéâäàåçêëèïîıÄÅ",
   "ÉæÆôöòûùİÖÜø£ØŞş",
   "áíóúñÑĞğ¿®¬½¼¡«»",
   "░▒▓│┤ÁÂÀ©╣║╗╝¢¥┐",
   "└┴┬├─┼ãÃ╚╔╩╦╠═╬¤",
   "ºªÊËÈ�ÍÎÏ┘┌█▄¦Ì▀",
   "ÓßÔÒõÕµ�×ÚÛÙìÿ¯´",
   "\u00ad±�¾¶§÷¸°¨·¹³²■\u00a0"]⟩

def cp858 : Page := ⟨0x80,
  ["ÇüéâäàåçêëèïîìÄÅ",
   "ÉæÆôöòûùÿÖÜø£Ø×ƒ",
   "áíóúñÑªº¿®¬½¼¡«»",
   "░▒▓│┤ÁÂÀ©╣║╗╝¢¥┐",
   "└┴┬├─┼ãÃ╚╔╩╦╠═╬¤",
   "ðÐÊËÈ€ÍÎÏ┘┌█▄¦Ì▀",
   "ÓßÔÒõÕµþÞÚÛÙýÝ¯´",
   "\u00ad±‗¾¶§÷¸°¨·¹³²■\u00a0"]⟩

def cp860 : Page := ⟨0x80,
  ["ÇüéâãàÁçêÊèÍÔìÃÂ",
   "ÉÀÈôõòÚùÌÕÜ¢£Ù₧Ó",
   "áíóúñÑªº¿Ò¬½¼¡«»",
   "░▒▓│┤╡╢╖╕╣║╗╝╜╛┐",
   "└┴┬├─┼╞╟╚╔╩╦╠═╬╧",
   "╨╤╥╙╘╒╓╫╪┘┌█▄▌▐▀",
   "αßΓπΣσµτΦΘΩδ∞φε∩",
   "≡±≥≤⌠⌡÷≈°∙·√ⁿ²■\u00a0"]⟩

def cp861 : Page := ⟨0x80,
  ["ÇüéâäàåçêëèÐðÞÄÅ",
   "ÉæÆôöþûÝýÖÜø£Ø₧ƒ",
   "áíóúÁÍÓÚ¿⌐¬½¼¡«»",
   "░▒▓│┤╡╢╖╕╣║╗╝╜╛┐",
   "└┴┬├─┼╞╟╚╔╩╦╠═╬╧",
   "╨╤╥╙╘╒╓╫╪┘┌█▄▌▐▀",
   "αßΓπΣσµτΦΘΩδ∞φε∩",
   "≡±≥≤⌠⌡÷≈°∙·√ⁿ²■\u00a0"]⟩

def cp862 : Page := ⟨0x80,
  ["\u05d0\u05d1\u05d2\u05d3\u05d4\u05d5\u05d6\u05d7\u05d8\u05d9\u05da\u05db\u05dc\u05dd\u05de\u05df",
   "\u05e0\u05e1\u05e2\u05e3\u05e4\u05e5\u05e6\u05e7\u05e8\u05e9\u05ea¢£¥₧ƒ",
   "áíóúñÑªº¿⌐¬½¼¡«»",
   "░▒▓│┤╡╢╖╕╣║╗╝╜╛┐",
   "└┴┬├─┼╞╟╚╔╩╦╠═╬╧",
   "╨╤╥╙╘╒╓╫╪┘┌█▄▌▐▀",
   "αßΓπΣσµτΦΘΩδ∞φε∩",
   "≡±≥≤⌠⌡÷≈°∙·√ⁿ²■\u00a0"]⟩

def cp863 : Page := ⟨0x80,
  ["ÇüéâÂà¶çêëèïî‗À§",
   "ÉÈÊôËÏûù¤ÔÜ¢£ÙÛƒ",
   "¦´óú¨¸³¯Î⌐¬½¼¾«»",
   "░▒▓│┤╡╢╖╕╣║╗╝╜╛┐",
   "└┴┬├─┼╞╟╚╔╩╦╠═╬╧",
   "╨╤╥╙╘╒╓╫╪┘┌█▄▌▐▀",
   "αßΓπΣσµτΦΘΩδ∞φε∩",
   "≡±≥≤⌠⌡÷≈°∙·√ⁿ²■\u00a0"]⟩

def cp864 : Page := ⟨0x20,
  [" !\"#$٪&'()*+,-./",
   "0123456789:;<=>?",
   "@ABCDEFGHIJKLMNO",
   "PQRSTUVWXYZ[\\]^_",
   "`abcdefghijklmno",
   "pqrstuvwxyz\x7b|\x7d~\x7f",
   "°·∙√▒─│┼┤┬├┴┐┌└┘",
   "β∞φ±½¼≈«»\ufef7\ufef8��\ufefb\ufefc�",
   "\u00a0\u00ad\ufe82£¤\ufe84��\ufe8e\ufe8f\ufe95\ufe99،\ufe9d\ufea1\ufea5",
   "٠١٢٣٤٥٦٧٨٩\ufed1\u061b\ufeb1\ufeb5\ufeb9\u061f",
   "¢\ufe80\ufe81\ufe83\ufe85\ufeca\ufe8b\ufe8d\ufe91\ufe93\ufe97\ufe9b\ufe9f\ufea3\ufea7\ufea9",
   "\ufeab\ufead\ufeaf\ufeb3\ufeb7\ufebb\ufebf\ufec1\ufec5\ufecb\ufecf¦¬÷×\ufec9",
   "\u0640\ufed3\ufed7\ufedb\ufedf\ufee3\ufee7\ufeeb\ufeed\ufeef\ufef3\ufebd\ufecc\ufece\ufecd\ufee1",
   "\ufe7d\u0651\ufee5\ufee9\ufeec\ufef0\ufef2\ufed0\ufed5\ufef5\ufef6\ufedd\ufed9\ufef1■"]⟩

def cp865 : Page := ⟨0x80,
  ["ÇüéâäàåçêëèïîìÄÅ",
   "ÉæÆôöòûùÿÖÜø£Ø₧ƒ",
   "áíóúñÑªº¿⌐¬½¼¡«¤",
   "░▒▓│┤╡╢╖╕╣║╗╝╜╛┐",
   "└┴┬├─┼╞╟╚╔╩╦╠═╬╧",
   "╨╤╥╙╘╒╓╫╪┘┌█▄▌▐▀",
   "αßΓπΣσµτΦΘΩδ∞φε∩",
   "≡±≥≤⌠⌡÷≈°∙·√ⁿ²■\u00a0"]⟩

def cp866 : Page := ⟨0x80,
  ["АБВГДЕЖЗИЙКЛМНОП",
   "РСТУФХЦЧШЩЪЫЬЭЮЯ",
   "абвгдежзийклмноп",
   "░▒▓│┤╡╢╖╕╣║╗╝╜╛┐",
   "└┴┬├─┼╞╟╚╔╩╦╠═╬╧",
   "╨╤╥╙╘╒╓╫╪┘┌█▄▌▐▀",
   "рстуфхцчшщъыьэюя",
   "ЁёЄєЇїЎў°∙·√№¤■\u00a0"]⟩

def cp869 : Page := ⟨0x80,
  ["������Ά�·¬¦‘’Έ―Ή",
   "ΊΪΌ��ΎΫ©Ώ²³ά£έήί",
   "ϊΐόύΑΒΓΔΕΖΗ½ΘΙ«»",
   "░▒▓│┤ΚΛΜΝ╣║╗╝ΞΟ┐",
   "└┴┬├─┼ΠΡ╚╔╩╦╠═╬Σ",
   "ΤΥΦΧΨΩαβγ┘┌█▄δε▀",
   "ζηθικλμνξοπρσςτ΄",
   "\u00ad±υφχ§ψ΅°¨ωϋΰώ■\u00a0"]⟩

def cp1125 : Page := ⟨0x80,
  ["АБВГДЕЖЗИЙКЛМНОП",
   "РСТУФХЦЧШЩЪЫЬЭЮЯ",
   "абвгдежзийклмноп",
   "░▒▓│┤╡╢╖╕╣║╗╝╜╛┐",
   "└┴┬├─┼╞╟╚╔╩╦╠═╬╧",
   "╨╤╥╙╘╒╓╫╪┘┌█▄▌▐▀",
   "рстуфхцчшщъыьэюя",
   "ЁёҐґЄєІіЇї·√№¤■\u00a0"]⟩

end Page
end Charset
end Text
end Arazzo
