import DomainPolicy.Text.CodePage.Basic

/-!
# Code pages of DOS

* The pages of DOS (`CodePage.dosPages`).
-/

namespace DomainPolicy.CodePage

def cp437 : CodePage where
  name := "cp437"
  aliases := ["437", "cspc8codepage437", "ibm437"]
  rows := ["ÇüéâäàåçêëèïîìÄÅ", "ÉæÆôöòûùÿÖÜ¢£¥₧ƒ", "áíóúñÑªº¿⌐¬½¼¡«»", "░▒▓│┤╡╢╖╕╣║╗╝╜╛┐", "└┴┬├─┼╞╟╚╔╩╦╠═╬╧",
    "╨╤╥╙╘╒╓╫╪┘┌█▄▌▐▀", "αßΓπΣσµτΦΘΩδ∞φε∩", "≡±≥≤⌠⌡÷≈°∙·√ⁿ²■\u00a0"]

def cp720 : CodePage where
  name := "cp720"
  rows := ["\u0080\u0081éâ\u0084à\u0086çêëèïî\u008d\u008e\u008f",
    "\u0090\u0651\u0652ô¤\u0640ûù\u0621\u0622\u0623\u0624£\u0625\u0626\u0627",
    "\u0628\u0629\u062a\u062b\u062c\u062d\u062e\u062f\u0630\u0631\u0632\u0633\u0634\u0635«»", "░▒▓│┤╡╢╖╕╣║╗╝╜╛┐",
    "└┴┬├─┼╞╟╚╔╩╦╠═╬╧", "╨╤╥╙╘╒╓╫╪┘┌█▄▌▐▀",
    "\u0636\u0637\u0638\u0639\u063a\u0641µ\u0642\u0643\u0644\u0645\u0646\u0647\u0648\u0649\u064a",
    "≡\u064b\u064c\u064d\u064e\u064f\u0650≈°∙·√ⁿ²■\u00a0"]

def cp737 : CodePage where
  name := "cp737"
  rows := ["ΑΒΓΔΕΖΗΘΙΚΛΜΝΞΟΠ", "ΡΣΤΥΦΧΨΩαβγδεζηθ", "ικλμνξοπρσςτυφχψ", "░▒▓│┤╡╢╖╕╣║╗╝╜╛┐", "└┴┬├─┼╞╟╚╔╩╦╠═╬╧",
    "╨╤╥╙╘╒╓╫╪┘┌█▄▌▐▀", "ωάέήϊίόύϋώΆΈΉΊΌΎ", "Ώ±≥≤ΪΫ÷≈°∙·√ⁿ²■\u00a0"]

def cp775 : CodePage where
  name := "cp775"
  aliases := ["775", "cspc775baltic", "ibm775"]
  rows := ["ĆüéāäģåćłēŖŗīŹÄÅ", "ÉæÆōöĢ¢ŚśÖÜø£Ø×¤", "ĀĪóŻżź”¦©®¬½¼Ł«»", "░▒▓│┤ĄČĘĖ╣║╗╝ĮŠ┐", "└┴┬├─┼ŲŪ╚╔╩╦╠═╬Ž",
    "ąčęėįšųūž┘┌█▄▌▐▀", "ÓßŌŃõÕµńĶķĻļņĒŅ’", "\u00ad±“¾¶§÷„°∙·¹³²■\u00a0"]

def cp850 : CodePage where
  name := "cp850"
  aliases := ["850", "cspc850multilingual", "ibm850"]
  rows := ["ÇüéâäàåçêëèïîìÄÅ", "ÉæÆôöòûùÿÖÜø£Ø×ƒ", "áíóúñÑªº¿®¬½¼¡«»", "░▒▓│┤ÁÂÀ©╣║╗╝¢¥┐", "└┴┬├─┼ãÃ╚╔╩╦╠═╬¤",
    "ðÐÊËÈıÍÎÏ┘┌█▄¦Ì▀", "ÓßÔÒõÕµþÞÚÛÙýÝ¯´", "\u00ad±‗¾¶§÷¸°¨·¹³²■\u00a0"]

def cp852 : CodePage where
  name := "cp852"
  aliases := ["852", "cspcp852", "ibm852"]
  rows := ["ÇüéâäůćçłëŐőîŹÄĆ", "ÉĹĺôöĽľŚśÖÜŤťŁ×č", "áíóúĄąŽžĘę¬źČş«»", "░▒▓│┤ÁÂĚŞ╣║╗╝Żż┐", "└┴┬├─┼Ăă╚╔╩╦╠═╬¤",
    "đĐĎËďŇÍÎě┘┌█▄ŢŮ▀", "ÓßÔŃńňŠšŔÚŕŰýÝţ´", "\u00ad˝˛ˇ˘§÷¸°¨˙űŘř■\u00a0"]

def cp855 : CodePage where
  name := "cp855"
  aliases := ["855", "csibm855", "ibm855"]
  rows := ["ђЂѓЃёЁєЄѕЅіІїЇјЈ", "љЉњЊћЋќЌўЎџЏюЮъЪ", "аАбБцЦдДеЕфФгГ«»", "░▒▓│┤хХиИ╣║╗╝йЙ┐", "└┴┬├─┼кК╚╔╩╦╠═╬¤",
    "лЛмМнНоОп┘┌█▄Пя▀", "ЯрРсСтТуУжЖвВьЬ№", "\u00adыЫзЗшШэЭщЩчЧ§■\u00a0"]

def cp856 : CodePage where
  name := "cp856"
  rows := ["\u05d0\u05d1\u05d2\u05d3\u05d4\u05d5\u05d6\u05d7\u05d8\u05d9\u05da\u05db\u05dc\u05dd\u05de\u05df",
    "\u05e0\u05e1\u05e2\u05e3\u05e4\u05e5\u05e6\u05e7\u05e8\u05e9\u05ea\ufffd£\ufffd×\ufffd",
    "\ufffd\ufffd\ufffd\ufffd\ufffd\ufffd\ufffd\ufffd\ufffd®¬½¼\ufffd«»", "░▒▓│┤\ufffd\ufffd\ufffd©╣║╗╝¢¥┐",
    "└┴┬├─┼\ufffd\ufffd╚╔╩╦╠═╬¤", "\ufffd\ufffd\ufffd\ufffd\ufffd\ufffd\ufffd\ufffd\ufffd┘┌█▄¦\ufffd▀",
    "\ufffd\ufffd\ufffd\ufffd\ufffd\ufffdµ\ufffd\ufffd\ufffd\ufffd\ufffd\ufffd\ufffd¯´",
    "\u00ad±‗¾¶§÷¸°¨·¹³²■\u00a0"]

def cp857 : CodePage where
  name := "cp857"
  aliases := ["857", "csibm857", "ibm857"]
  rows := ["ÇüéâäàåçêëèïîıÄÅ", "ÉæÆôöòûùİÖÜø£ØŞş", "áíóúñÑĞğ¿®¬½¼¡«»", "░▒▓│┤ÁÂÀ©╣║╗╝¢¥┐", "└┴┬├─┼ãÃ╚╔╩╦╠═╬¤",
    "ºªÊËÈ\ufffdÍÎÏ┘┌█▄¦Ì▀", "ÓßÔÒõÕµ\ufffd×ÚÛÙìÿ¯´", "\u00ad±\ufffd¾¶§÷¸°¨·¹³²■\u00a0"]

def cp858 : CodePage where
  name := "cp858"
  aliases := ["858", "csibm858", "ibm858"]
  rows := ["ÇüéâäàåçêëèïîìÄÅ", "ÉæÆôöòûùÿÖÜø£Ø×ƒ", "áíóúñÑªº¿®¬½¼¡«»", "░▒▓│┤ÁÂÀ©╣║╗╝¢¥┐", "└┴┬├─┼ãÃ╚╔╩╦╠═╬¤",
    "ðÐÊËÈ€ÍÎÏ┘┌█▄¦Ì▀", "ÓßÔÒõÕµþÞÚÛÙýÝ¯´", "\u00ad±‗¾¶§÷¸°¨·¹³²■\u00a0"]

def cp860 : CodePage where
  name := "cp860"
  aliases := ["860", "csibm860", "ibm860"]
  rows := ["ÇüéâãàÁçêÊèÍÔìÃÂ", "ÉÀÈôõòÚùÌÕÜ¢£Ù₧Ó", "áíóúñÑªº¿Ò¬½¼¡«»", "░▒▓│┤╡╢╖╕╣║╗╝╜╛┐", "└┴┬├─┼╞╟╚╔╩╦╠═╬╧",
    "╨╤╥╙╘╒╓╫╪┘┌█▄▌▐▀", "αßΓπΣσµτΦΘΩδ∞φε∩", "≡±≥≤⌠⌡÷≈°∙·√ⁿ²■\u00a0"]

def cp861 : CodePage where
  name := "cp861"
  aliases := ["861", "cp_is", "csibm861", "ibm861"]
  rows := ["ÇüéâäàåçêëèÐðÞÄÅ", "ÉæÆôöþûÝýÖÜø£Ø₧ƒ", "áíóúÁÍÓÚ¿⌐¬½¼¡«»", "░▒▓│┤╡╢╖╕╣║╗╝╜╛┐", "└┴┬├─┼╞╟╚╔╩╦╠═╬╧",
    "╨╤╥╙╘╒╓╫╪┘┌█▄▌▐▀", "αßΓπΣσµτΦΘΩδ∞φε∩", "≡±≥≤⌠⌡÷≈°∙·√ⁿ²■\u00a0"]

def cp862 : CodePage where
  name := "cp862"
  aliases := ["862", "cspc862latinhebrew", "ibm862"]
  rows := ["\u05d0\u05d1\u05d2\u05d3\u05d4\u05d5\u05d6\u05d7\u05d8\u05d9\u05da\u05db\u05dc\u05dd\u05de\u05df",
    "\u05e0\u05e1\u05e2\u05e3\u05e4\u05e5\u05e6\u05e7\u05e8\u05e9\u05ea¢£¥₧ƒ", "áíóúñÑªº¿⌐¬½¼¡«»",
    "░▒▓│┤╡╢╖╕╣║╗╝╜╛┐", "└┴┬├─┼╞╟╚╔╩╦╠═╬╧", "╨╤╥╙╘╒╓╫╪┘┌█▄▌▐▀", "αßΓπΣσµτΦΘΩδ∞φε∩", "≡±≥≤⌠⌡÷≈°∙·√ⁿ²■\u00a0"]

def cp863 : CodePage where
  name := "cp863"
  aliases := ["863", "csibm863", "ibm863"]
  rows := ["ÇüéâÂà¶çêëèïî‗À§", "ÉÈÊôËÏûù¤ÔÜ¢£ÙÛƒ", "¦´óú¨¸³¯Î⌐¬½¼¾«»", "░▒▓│┤╡╢╖╕╣║╗╝╜╛┐", "└┴┬├─┼╞╟╚╔╩╦╠═╬╧",
    "╨╤╥╙╘╒╓╫╪┘┌█▄▌▐▀", "αßΓπΣσµτΦΘΩδ∞φε∩", "≡±≥≤⌠⌡÷≈°∙·√ⁿ²■\u00a0"]

def cp864 : CodePage where
  name := "cp864"
  aliases := ["864", "csibm864", "ibm864"]
  rows := ["\x00\x01\x02\x03\x04\x05\x06\x07\x08\x09\x0a\x0b\x0c\x0d\x0e\x0f",
    "\x10\x11\x12\x13\x14\x15\x16\x17\x18\x19\x1a\x1b\x1c\x1d\x1e\x1f", " !\"#$٪&'()*+,-./", "0123456789:;<=>?",
    "@ABCDEFGHIJKLMNO", "PQRSTUVWXYZ[\\]^_", "`abcdefghijklmno", "pqrstuvwxyz\x7b|\x7d~\x7f", "°·∙√▒─│┼┤┬├┴┐┌└┘",
    "β∞φ±½¼≈«»\ufef7\ufef8\ufffd\ufffd\ufefb\ufefc\ufffd",
    "\u00a0\u00ad\ufe82£¤\ufe84\ufffd\ufffd\ufe8e\ufe8f\ufe95\ufe99،\ufe9d\ufea1\ufea5",
    "\u0660\u0661\u0662\u0663\u0664\u0665\u0666\u0667\u0668\u0669\ufed1\u061b\ufeb1\ufeb5\ufeb9\u061f",
    "¢\ufe80\ufe81\ufe83\ufe85\ufeca\ufe8b\ufe8d\ufe91\ufe93\ufe97\ufe9b\ufe9f\ufea3\ufea7\ufea9",
    "\ufeab\ufead\ufeaf\ufeb3\ufeb7\ufebb\ufebf\ufec1\ufec5\ufecb\ufecf¦¬÷×\ufec9",
    "\u0640\ufed3\ufed7\ufedb\ufedf\ufee3\ufee7\ufeeb\ufeed\ufeef\ufef3\ufebd\ufecc\ufece\ufecd\ufee1",
    "\ufe7d\u0651\ufee5\ufee9\ufeec\ufef0\ufef2\ufed0\ufed5\ufef5\ufef6\ufedd\ufed9\ufef1■\ufffd"]

def cp865 : CodePage where
  name := "cp865"
  aliases := ["865", "csibm865", "ibm865"]
  rows := ["ÇüéâäàåçêëèïîìÄÅ", "ÉæÆôöòûùÿÖÜø£Ø₧ƒ", "áíóúñÑªº¿⌐¬½¼¡«¤", "░▒▓│┤╡╢╖╕╣║╗╝╜╛┐", "└┴┬├─┼╞╟╚╔╩╦╠═╬╧",
    "╨╤╥╙╘╒╓╫╪┘┌█▄▌▐▀", "αßΓπΣσµτΦΘΩδ∞φε∩", "≡±≥≤⌠⌡÷≈°∙·√ⁿ²■\u00a0"]

def cp866 : CodePage where
  name := "cp866"
  aliases := ["866", "csibm866", "ibm866"]
  rows := ["АБВГДЕЖЗИЙКЛМНОП", "РСТУФХЦЧШЩЪЫЬЭЮЯ", "абвгдежзийклмноп", "░▒▓│┤╡╢╖╕╣║╗╝╜╛┐", "└┴┬├─┼╞╟╚╔╩╦╠═╬╧",
    "╨╤╥╙╘╒╓╫╪┘┌█▄▌▐▀", "рстуфхцчшщъыьэюя", "ЁёЄєЇїЎў°∙·√№¤■\u00a0"]

def cp869 : CodePage where
  name := "cp869"
  aliases := ["869", "cp_gr", "csibm869", "ibm869"]
  rows := ["\ufffd\ufffd\ufffd\ufffd\ufffd\ufffdΆ\ufffd·¬¦‘’Έ―Ή", "ΊΪΌ\ufffd\ufffdΎΫ©Ώ²³ά£έήί", "ϊΐόύΑΒΓΔΕΖΗ½ΘΙ«»",
    "░▒▓│┤ΚΛΜΝ╣║╗╝ΞΟ┐", "└┴┬├─┼ΠΡ╚╔╩╦╠═╬Σ", "ΤΥΦΧΨΩαβγ┘┌█▄δε▀", "ζηθικλμνξοπρσςτ΄", "\u00ad±υφχ§ψ΅°¨ωϋΰώ■\u00a0"]

def cp1125 : CodePage where
  name := "cp1125"
  aliases := ["1125", "cp866u", "ibm1125", "ruscii"]
  rows := ["АБВГДЕЖЗИЙКЛМНОП", "РСТУФХЦЧШЩЪЫЬЭЮЯ", "абвгдежзийклмноп", "░▒▓│┤╡╢╖╕╣║╗╝╜╛┐", "└┴┬├─┼╞╟╚╔╩╦╠═╬╧",
    "╨╤╥╙╘╒╓╫╪┘┌█▄▌▐▀", "рстуфхцчшщъыьэюя", "ЁёҐґЄєІіЇї·√№¤■\u00a0"]

/-- The pages of DOS. -/
def dosPages : List CodePage :=
  [cp437, cp720, cp737, cp775, cp850, cp852, cp855, cp856, cp857, cp858, cp860, cp861, cp862, cp863, cp864, cp865,
    cp866, cp869, cp1125]

end DomainPolicy.CodePage
