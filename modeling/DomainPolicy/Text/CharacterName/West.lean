import DomainPolicy.Text.CharacterName.Basic

/-!
# Names of characters, from U+0000 to U+0FFF

* The scripts of Europe, of the Near East, and of India and its neighbours.
-/

namespace DomainPolicy.CharacterName

/-- The names of the characters below U+1000. -/
def west : List Block := [
  ⟨0x0020, [
    "aSPACEfEXCLAMATION MARKqQUOTATION MARKoNUMBER SIGNlDOLLAR SIGNlPERCENT SIGNmAMPERSANDiPOSTROPHEkLEFT PARENTH",
    "ESISqRIGHT PARENTHESISrASTERISKiPLUS SIGNjCOMMAfHYPHEN-MINUSmFULL STOPjSOLIDUShDIGIT ZEROeONEdTWOcHREEfFOURd",
    "IVEeSIXcEVENfEIGHTfNINEkCOLONfSEMICOLONjLESS-THAN SIGNoEQUALS SIGNlGREATER-THAN SIGNrQUESTION MARKnCOMMERCIA",
    "L ATnLATIN CAPITAL LETTER AbBbCbDbEbFbGbHbIbJbKbLbMbNbObPbQbRbSbTbUbVbWbXbYbZvEFT SQUARE BRACKETtREVERSE SOL",
    "IDUSoIGHT SQUARE BRACKETuCIRCUMFLEX ACCENTrLOW LINEiGRAVE ACCENTmLATIN SMALL LETTER AbBbCbDbEbFbGbHbIbJbKbLb",
    "MbNbObPbQbRbSbTbUbVbWbXbYbZtEFT CURLY BRACKETsVERTICAL LINEnRIGHT CURLY BRACKETtTILDE"]⟩,
  ⟨0x00A0, [
    "aNO-BREAK SPACEoINVERTED EXCLAMATION MARKzaCENT SIGNjPOUND SIGNkCURRENCY SIGNnYEN SIGNiBROKEN BARkSECTION SI",
    "GNmDIAERESISjCOPYRIGHT SIGNoFEMININE ORDINAL INDICATORzbLEFT-POINTING DOUBLE ANGLE QUOTATION MARKzqNOT SIGNi",
    "SOFT HYPHENlREGISTERED SIGNpMACRONgDEGREE SIGNlPLUS-MINUS SIGNpSUPERSCRIPT TWOcHREErACUTE ACCENTmMICRO SIGNk",
    "PILCROW SIGNmMIDDLE DOTkCEDILLAhSUPERSCRIPT ONEpMASCULINE ORDINAL INDICATORzcRIGHT-POINTING DOUBLE ANGLE QUO",
    "TATION MARKzrVULGAR FRACTION ONE QUARTERhHALFiTHREE QUARTERSzfINVERTED QUESTION MARKwLATIN CAPITAL LETTER A ",
    "WITH GRAVEfACUTEfCIRCUMFLEXkTILDEfDIAERESISjRING ABOVEqEcC WITH CEDILLAoE WITH GRAVEfACUTEfCIRCUMFLEXkDIAERE",
    "SISqI WITH GRAVEfACUTEfCIRCUMFLEXkDIAERESISqETHdN WITH TILDEmO WITH GRAVEfACUTEfCIRCUMFLEXkTILDEfDIAERESISzm",
    "MULTIPLICATION SIGNtLATIN CAPITAL LETTER O WITH STROKEnU WITH GRAVEfACUTEfCIRCUMFLEXkDIAERESISqY WITH ACUTEm",
    "THORNuSMALL LETTER SHARP ShA WITH GRAVEfACUTEfCIRCUMFLEXkTILDEfDIAERESISjRING ABOVEqEcC WITH CEDILLAoE WITH ",
    "GRAVEfACUTEfCIRCUMFLEXkDIAERESISqI WITH GRAVEfACUTEfCIRCUMFLEXkDIAERESISqETHdN WITH TILDEmO WITH GRAVEfACUTE",
    "fCIRCUMFLEXkTILDEfDIAERESISzkDIVISION SIGNnLATIN SMALL LETTER O WITH STROKEnU WITH GRAVEfACUTEfCIRCUMFLEXkDI",
    "AERESISqY WITH ACUTEmTHORNfY WITH DIAERESISzeCAPITAL LETTER A WITH MACRONzdSMALL LETTER A WITH MACRONzbCAPIT",
    "AL LETTER A WITH BREVEzcSMALL LETTER A WITH BREVEzaCAPITAL LETTER A WITH OGONEKzdSMALL LETTER A WITH OGONEKz",
    "bCAPITAL LETTER C WITH ACUTEzcSMALL LETTER C WITH ACUTEzaCAPITAL LETTER C WITH CIRCUMFLEXzhSMALL LETTER C WI",
    "TH CIRCUMFLEXzfCAPITAL LETTER C WITH DOT ABOVEzgSMALL LETTER C WITH DOT ABOVEzeCAPITAL LETTER C WITH CARONzc",
    "SMALL LETTER C WITH CARONzaCAPITAL LETTER D WITH CARONzcSMALL LETTER D WITH CARONzaCAPITAL LETTER D WITH STR",
    "OKEzdSMALL LETTER D WITH STROKEzbCAPITAL LETTER E WITH MACRONzdSMALL LETTER E WITH MACRONzbCAPITAL LETTER E ",
    "WITH BREVEzcSMALL LETTER E WITH BREVEzaCAPITAL LETTER E WITH DOT ABOVEzgSMALL LETTER E WITH DOT ABOVEzeCAPIT",
    "AL LETTER E WITH OGONEKzdSMALL LETTER E WITH OGONEKzbCAPITAL LETTER E WITH CARONzcSMALL LETTER E WITH CARONz",
    "aCAPITAL LETTER G WITH CIRCUMFLEXzhSMALL LETTER G WITH CIRCUMFLEXzfCAPITAL LETTER G WITH BREVEzcSMALL LETTER",
    " G WITH BREVEzaCAPITAL LETTER G WITH DOT ABOVEzgSMALL LETTER G WITH DOT ABOVEzeCAPITAL LETTER G WITH CEDILLA",
    "zeSMALL LETTER G WITH CEDILLAzcCAPITAL LETTER H WITH CIRCUMFLEXzhSMALL LETTER H WITH CIRCUMFLEXzfCAPITAL LET",
    "TER H WITH STROKEzdSMALL LETTER H WITH STROKEzbCAPITAL LETTER I WITH TILDEzcSMALL LETTER I WITH TILDEzaCAPIT",
    "AL LETTER I WITH MACRONzdSMALL LETTER I WITH MACRONzbCAPITAL LETTER I WITH BREVEzcSMALL LETTER I WITH BREVEz",
    "aCAPITAL LETTER I WITH OGONEKzdSMALL LETTER I WITH OGONEKzbCAPITAL LETTER I WITH DOT ABOVEzgSMALL LETTER DOT",
    "LESS IwCAPITAL LIGATURE IJtSMALL LIGATURE IJrCAPITAL LETTER J WITH CIRCUMFLEXzhSMALL LETTER J WITH CIRCUMFLE",
    "XzfCAPITAL LETTER K WITH CEDILLAzeSMALL LETTER K WITH CEDILLAnRAqCAPITAL LETTER L WITH ACUTEzcSMALL LETTER L",
    " WITH ACUTEzaCAPITAL LETTER L WITH CEDILLAzeSMALL LETTER L WITH CEDILLAzcCAPITAL LETTER L WITH CARONzcSMALL ",
    "LETTER L WITH CARONzaCAPITAL LETTER L WITH MIDDLE DOTzhSMALL LETTER L WITH MIDDLE DOTzfCAPITAL LETTER L WITH",
    " STROKEzdSMALL LETTER L WITH STROKEzbCAPITAL LETTER N WITH ACUTEzcSMALL LETTER N WITH ACUTEzaCAPITAL LETTER ",
    "N WITH CEDILLAzeSMALL LETTER N WITH CEDILLAzcCAPITAL LETTER N WITH CARONzcSMALL LETTER N WITH CARONkPRECEDED",
    " BY APOSTROPHEzmCAPITAL LETTER ENGsSMALL LETTER ENGqCAPITAL LETTER O WITH MACRONzdSMALL LETTER O WITH MACRON",
    "zbCAPITAL LETTER O WITH BREVEzcSMALL LETTER O WITH BREVEzaCAPITAL LETTER O WITH DOUBLE ACUTEzjSMALL LETTER O",
    " WITH DOUBLE ACUTEzhCAPITAL LIGATURE OEtSMALL LIGATURE OErCAPITAL LETTER R WITH ACUTEzcSMALL LETTER R WITH A",
    "CUTEzaCAPITAL LETTER R WITH CEDILLAzeSMALL LETTER R WITH CEDILLAzcCAPITAL LETTER R WITH CARONzcSMALL LETTER ",
    "R WITH CARONzaCAPITAL LETTER S WITH ACUTEzcSMALL LETTER S WITH ACUTEzaCAPITAL LETTER S WITH CIRCUMFLEXzhSMAL",
    "L LETTER S WITH CIRCUMFLEXzfCAPITAL LETTER S WITH CEDILLAzeSMALL LETTER S WITH CEDILLAzcCAPITAL LETTER S WIT",
    "H CARONzcSMALL LETTER S WITH CARONzaCAPITAL LETTER T WITH CEDILLAzeSMALL LETTER T WITH CEDILLAzcCAPITAL LETT",
    "ER T WITH CARONzcSMALL LETTER T WITH CARONzaCAPITAL LETTER T WITH STROKEzdSMALL LETTER T WITH STROKEzbCAPITA",
    "L LETTER U WITH TILDEzcSMALL LETTER U WITH TILDEzaCAPITAL LETTER U WITH MACRONzdSMALL LETTER U WITH MACRONzb",
    "CAPITAL LETTER U WITH BREVEzcSMALL LETTER U WITH BREVEzaCAPITAL LETTER U WITH RING ABOVEzhSMALL LETTER U WIT",
    "H RING ABOVEzfCAPITAL LETTER U WITH DOUBLE ACUTEzjSMALL LETTER U WITH DOUBLE ACUTEzhCAPITAL LETTER U WITH OG",
    "ONEKzdSMALL LETTER U WITH OGONEKzbCAPITAL LETTER W WITH CIRCUMFLEXzhSMALL LETTER W WITH CIRCUMFLEXzfCAPITAL ",
    "LETTER Y WITH CIRCUMFLEXzhSMALL LETTER Y WITH CIRCUMFLEXzfCAPITAL LETTER Y WITH DIAERESISqZ WITH ACUTEzcSMAL",
    "L LETTER Z WITH ACUTEzaCAPITAL LETTER Z WITH DOT ABOVEzgSMALL LETTER Z WITH DOT ABOVEzeCAPITAL LETTER Z WITH",
    " CARONzcSMALL LETTER Z WITH CARONmLONG SgB WITH STROKEzbCAPITAL LETTER B WITH HOOKeTOPBARzdSMALL LETTER B WI",
    "TH TOPBARzbCAPITAL LETTER TONE SIXxSMALL LETTER TONE SIXvCAPITAL LETTER OPEN OgC WITH HOOKzbSMALL LETTER C W",
    "ITH HOOKyCAPITAL LETTER AFRICAN DjD WITH HOOKeTOPBARzdSMALL LETTER D WITH TOPBARnTURNED DELTAzaCAPITAL LETTE",
    "R REVERSED EkSCHWAfOPEN EgF WITH HOOKzbSMALL LETTER F WITH HOOKyCAPITAL LETTER G WITH HOOKkAMMAuSMALL LETTER",
    " HVpCAPITAL LETTER IOTAd WITH STROKEnK WITH HOOKzbSMALL LETTER K WITH HOOKlL WITH BARjAMBDA WITH STROKEzgCAP",
    "ITAL LETTER TURNED MiN WITH LEFT HOOKzgSMALL LETTER N WITH LONG RIGHT LEGzjCAPITAL LETTER O WITH MIDDLE TILD",
    "EmHORNzbSMALL LETTER O WITH HORNyCAPITAL LETTER OIrSMALL LETTER OIpCAPITAL LETTER P WITH HOOKzbSMALL LETTER ",
    "P WITH HOOKyLETTER YRjCAPITAL LETTER TONE TWOxSMALL LETTER TONE TWOvCAPITAL LETTER ESHsLETTER REVERSED ESH L",
    "OOPySMALL LETTER T WITH PALATAL HOOKzhCAPITAL LETTER T WITH HOOKzbSMALL LETTER T WITH HOOKyCAPITAL LETTER T ",
    "WITH RETROFLEX HOOKvU WITH HORNzbSMALL LETTER U WITH HORNyCAPITAL LETTER UPSILONhV WITH HOOKlY WITH HOOKzbSM",
    "ALL LETTER Y WITH HOOKyCAPITAL LETTER Z WITH STROKEzdSMALL LETTER Z WITH STROKEzbCAPITAL LETTER EZHa REVERSE",
    "DzcSMALL LETTER EZH REVERSEDiWITH TAILzbLETTER TWO WITH STROKEwCAPITAL LETTER TONE FIVEySMALL LETTER TONE FI",
    "VEwLETTER INVERTED GLOTTAL STOP WITH STROKEziWYNNeDENTAL CLICKmLATERAL CLICKnALVEOLAR CLICKoRETROFLEX CLICKw",
    "CAPITAL LETTER DZ WITH CARONm WITH SMALL LETTER Z WITH CARONzwSMALL LETTER DZ WITH CARONzbCAPITAL LETTER LJb",
    " WITH SMALL LETTER JzlSMALL LETTER LJpCAPITAL LETTER NJb WITH SMALL LETTER JzlSMALL LETTER NJpCAPITAL LETTER",
    " A WITH CARONzcSMALL LETTER A WITH CARONzaCAPITAL LETTER I WITH CARONzcSMALL LETTER I WITH CARONzaCAPITAL LE",
    "TTER O WITH CARONzcSMALL LETTER O WITH CARONzaCAPITAL LETTER U WITH CARONzcSMALL LETTER U WITH CARONzaCAPITA",
    "L LETTER U WITH DIAERESIS AND MACRONzrSMALL LETTER U WITH DIAERESIS AND MACRONzpCAPITAL LETTER U WITH DIAERE",
    "SIS AND ACUTEzqSMALL LETTER U WITH DIAERESIS AND ACUTEzoCAPITAL LETTER U WITH DIAERESIS AND CARONzqSMALL LET",
    "TER U WITH DIAERESIS AND CARONzoCAPITAL LETTER U WITH DIAERESIS AND GRAVEzqSMALL LETTER U WITH DIAERESIS AND",
    " GRAVEzbTURNED EvCAPITAL LETTER A WITH DIAERESIS AND MACRONzrSMALL LETTER A WITH DIAERESIS AND MACRONzpCAPIT",
    "AL LETTER A WITH DOT ABOVE AND MACRONzrSMALL LETTER A WITH DOT ABOVE AND MACRONzpCAPITAL LETTER AE WITH MACR",
    "ONzeSMALL LETTER AE WITH MACRONzcCAPITAL LETTER G WITH STROKEzdSMALL LETTER G WITH STROKEzbCAPITAL LETTER G ",
    "WITH CARONzcSMALL LETTER G WITH CARONzaCAPITAL LETTER K WITH CARONzcSMALL LETTER K WITH CARONzaCAPITAL LETTE",
    "R O WITH OGONEKzdSMALL LETTER O WITH OGONEKzbCAPITAL LETTER O WITH OGONEK AND MACRONzoSMALL LETTER O WITH OG",
    "ONEK AND MACRONzmCAPITAL LETTER EZH WITH CARONzeSMALL LETTER EZH WITH CARONoJ WITH CARONzaCAPITAL LETTER DZb",
    " WITH SMALL LETTER ZzlSMALL LETTER DZpCAPITAL LETTER G WITH ACUTEzcSMALL LETTER G WITH ACUTEzaCAPITAL LETTER",
    " HWAIRfWYNNeN WITH GRAVEzcSMALL LETTER N WITH GRAVEzaCAPITAL LETTER A WITH RING ABOVE AND ACUTEzrSMALL LETTE",
    "R A WITH RING ABOVE AND ACUTEzpCAPITAL LETTER AE WITH ACUTEzdSMALL LETTER AE WITH ACUTEzbCAPITAL LETTER O WI",
    "TH STROKE AND ACUTEznSMALL LETTER O WITH STROKE AND ACUTEzlCAPITAL LETTER A WITH DOUBLE GRAVEzjSMALL LETTER ",
    "A WITH DOUBLE GRAVEzhCAPITAL LETTER A WITH INVERTED BREVEzlSMALL LETTER A WITH INVERTED BREVEzjCAPITAL LETTE",
    "R E WITH DOUBLE GRAVEzjSMALL LETTER E WITH DOUBLE GRAVEzhCAPITAL LETTER E WITH INVERTED BREVEzlSMALL LETTER ",
    "E WITH INVERTED BREVEzjCAPITAL LETTER I WITH DOUBLE GRAVEzjSMALL LETTER I WITH DOUBLE GRAVEzhCAPITAL LETTER ",
    "I WITH INVERTED BREVEzlSMALL LETTER I WITH INVERTED BREVEzjCAPITAL LETTER O WITH DOUBLE GRAVEzjSMALL LETTER ",
    "O WITH DOUBLE GRAVEzhCAPITAL LETTER O WITH INVERTED BREVEzlSMALL LETTER O WITH INVERTED BREVEzjCAPITAL LETTE",
    "R R WITH DOUBLE GRAVEzjSMALL LETTER R WITH DOUBLE GRAVEzhCAPITAL LETTER R WITH INVERTED BREVEzlSMALL LETTER ",
    "R WITH INVERTED BREVEzjCAPITAL LETTER U WITH DOUBLE GRAVEzjSMALL LETTER U WITH DOUBLE GRAVEzhCAPITAL LETTER ",
    "U WITH INVERTED BREVEzlSMALL LETTER U WITH INVERTED BREVEzjCAPITAL LETTER S WITH COMMA BELOWziSMALL LETTER S",
    " WITH COMMA BELOWzgCAPITAL LETTER T WITH COMMA BELOWziSMALL LETTER T WITH COMMA BELOWzgCAPITAL LETTER YOGHtS",
    "MALL LETTER YOGHrCAPITAL LETTER H WITH CARONzcSMALL LETTER H WITH CARONzaCAPITAL LETTER N WITH LONG RIGHT LE",
    "GzlSMALL LETTER D WITH CURLyCAPITAL LETTER OUrSMALL LETTER OUpCAPITAL LETTER Z WITH HOOKzbSMALL LETTER Z WIT",
    "H HOOKyCAPITAL LETTER A WITH DOT ABOVEzgSMALL LETTER A WITH DOT ABOVEzeCAPITAL LETTER E WITH CEDILLAzeSMALL ",
    "LETTER E WITH CEDILLAzcCAPITAL LETTER O WITH DIAERESIS AND MACRONzrSMALL LETTER O WITH DIAERESIS AND MACRONz",
    "pCAPITAL LETTER O WITH TILDE AND MACRONznSMALL LETTER O WITH TILDE AND MACRONzlCAPITAL LETTER O WITH DOT ABO",
    "VEzgSMALL LETTER O WITH DOT ABOVEzeCAPITAL LETTER O WITH DOT ABOVE AND MACRONzrSMALL LETTER O WITH DOT ABOVE",
    " AND MACRONzpCAPITAL LETTER Y WITH MACRONzdSMALL LETTER Y WITH MACRONnL WITH CURLlN WITH CURLlT WITH CURLlDO",
    "TLESS JiB DIGRAPHkQP DIGRAPHxCAPITAL LETTER A WITH STROKEnC WITH STROKEzdSMALL LETTER C WITH STROKEzbCAPITAL",
    " LETTER L WITH BARkT WITH DIAGONAL STROKEzmSMALL LETTER S WITH SWASH TAILrZ WITH SWASH TAILzfCAPITAL LETTER ",
    "GLOTTAL STOPzcSMALL LETTER GLOTTAL STOPzaCAPITAL LETTER B WITH STROKEnU BARfTURNED ViE WITH STROKEzdSMALL LE",
    "TTER E WITH STROKEzbCAPITAL LETTER J WITH STROKEzdSMALL LETTER J WITH STROKEzbCAPITAL LETTER SMALL Q WITH HO",
    "OK TAILzmSMALL LETTER Q WITH HOOK TAILzeCAPITAL LETTER R WITH STROKEzdSMALL LETTER R WITH STROKEzbCAPITAL LE",
    "TTER Y WITH STROKEzdSMALL LETTER Y WITH STROKEnTURNED AiALPHAfTURNED ALPHAmB WITH HOOKlOPEN OgC WITH CURLlD ",
    "WITH TAILeHOOKlREVERSED EkSCHWAa WITH HOOKpOPEN EgREVERSED OPEN Ea WITH HOOKzaCLOSED REVERSED OPEN EwDOTLESS",
    " J WITH STROKEvG WITH HOOKlSCRIPT GvLETTER SMALL CAPITAL GwSMALL LETTER GAMMAfRAMS HORNjTURNED HiH WITH HOOK",
    "kENG WITH HOOKoI WITH STROKEmOTArLETTER SMALL CAPITAL IwSMALL LETTER L WITH MIDDLE TILDEmBELTeRETROFLEX HOOK",
    "uEZHeTURNED Ma WITH LONG LEGwM WITH HOOKlN WITH LEFT HOOKjRETROFLEX HOOKzjLETTER SMALL CAPITAL NwSMALL LETTE",
    "R BARRED OvLETTER SMALL CAPITAL OExSMALL LETTER CLOSED OMEGAmPHIdTURNED Ra WITH LONG LEGiHOOKsR WITH LONG LE",
    "GiTAILeFISHHOOKoEVERSED R WITH FISHHOOKzmLETTER SMALL CAPITAL RbINVERTED RzgSMALL LETTER S WITH HOOKlESHdDOT",
    "LESS J WITH STROKE AND HOOKzfSQUAT REVERSED ESHsESH WITH CURLnTURNED Th WITH RETROFLEX HOOKvU BARePSILONhV W",
    "ITH HOOKlTURNED VbWbYvLETTER SMALL CAPITAL YwSMALL LETTER Z WITH RETROFLEX HOOKoCURLlEZHa WITH CURLzbLETTER ",
    "GLOTTAL STOPmPHARYNGEAL VOICED FRICATIVEzcINVERTED GLOTTAL STOPvSTRETCHED ClBILABIAL CLICKoSMALL CAPITAL BwS",
    "MALL LETTER CLOSED OPEN EzbLETTER SMALL CAPITAL G WITH HOOKlHwSMALL LETTER J WITH CROSSED-TAILtTURNED KvLETT",
    "ER SMALL CAPITAL LwSMALL LETTER Q WITH HOOKyLETTER GLOTTAL STOP WITH STROKEyREVERSED GLOTTAL STOP WITH STROK",
    "EzpSMALL LETTER DZ DIGRAPHjEZH DIGRAPHlZ DIGRAPH WITH CURLuTS DIGRAPHjESH DIGRAPHlC DIGRAPH WITH CURLuFENG D",
    "IGRAPHmLS DIGRAPHjZ DIGRAPHxLETTER BILABIAL PERCUSSIVErDENTAL PERCUSSIVEzbSMALL LETTER TURNED H WITH FISHHOO",
    "Ka AND TAILzzaMODIFIER LETTER SMALL Ha WITH HOOKlJbRbTURNED Ra WITH HOOKsCAPITAL INVERTED RsWbYhPRIMEfDOUBLE",
    " PRIMEmTURNED COMMAmAPOSTROPHEkREVERSED COMMAnIGHT HALF RINGpLEFT HALF RINGoGLOTTAL STOPmREVERSED GLOTTAL ST",
    "OPvLEFT ARROWHEADoRIGHT ARROWHEADpUP ARROWHEADmDOWN ARROWHEADoCIRCUMFLEX ACCENTziCARONfMODIFIER LETTER VERTI",
    "CAL LINEnMACRONgACUTE ACCENTmGRAVE ACCENTmLOW VERTICAL LINEnMACRONgGRAVE ACCENTmACUTE ACCENTqTRIANGULAR COLO",
    "NqHALF TRIANGULAR COLONvCENTRED RIGHT HALF RINGpLEFT HALF RINGwUP TACKhDOWN TACKjPLUS SIGNjMINUS SIGNzbBREVE",
    "fDOT ABOVEjRING ABOVEkOGONEKgSMALL TILDElDOUBLE ACUTE ACCENTtMODIFIER LETTER RHOTIC HOOKlCROSS ACCENTmSMALL ",
    "GAMMAfLbSbXbREVERSED GLOTTAL STOPzcEXTRA-HIGH TONE BARtHIGH TONE BARnMID TONE BARmLOW TONE BARmEXTRA-LOW TON",
    "E BARsYIN DEPARTING TONE MARKwANG DEPARTING TONE MARKyVOICINGhUNASPIRATEDlDOUBLE APOSTROPHErLOW DOWN ARROWHE",
    "ADoUP ARROWHEADmLEFT ARROWHEADoRIGHT ARROWHEADnNGiMIDDLE GRAVE ACCENTmDOUBLE GRAVE ACCENTmACUTE ACCENTzbLOW ",
    "TILDEjRAISED COLONmBEGIN HIGH TONEpEND HIGH TONEnBEGIN LOW TONEoEND LOW TONEmSHELFfOPEN SHELFkLOW LEFT ARROW",
    "zfCOMBINING GRAVE ACCENTmACUTE ACCENTmCIRCUMFLEX ACCENTrTILDEfMACRONgOVERLINEiBREVEfDOT ABOVEiIAERESISjHOOK ",
    "ABOVEkRING ABOVEkDOUBLE ACUTE ACCENTtCARONfVERTICAL LINE ABOVEtDOUBLE VERTICAL LINE ABOVEtGRAVE ACCENTtCANDR",
    "ABINDUlINVERTED BREVEoTURNED COMMA ABOVEsCOMMA ABOVElREVERSED COMMA ABOVEuCOMMA ABOVE RIGHTrGRAVE ACCENT BEL",
    "OWsACUTE ACCENT BELOWsLEFT TACK BELOWpRIGHT TACK BELOWqLEFT ANGLE ABOVEqHORNeLEFT HALF RING BELOWuUP TACK BE",
    "LOWnDOWN TACK BELOWpPLUS SIGN BELOWpMINUS SIGN BELOWqPALATALIZED HOOK BELOWwRETROFLEX HOOK BELOWuDOT BELOWiI",
    "AERESIS BELOWpRING BELOWkCOMMA BELOWkEDILLAhOGONEKgVERTICAL LINE BELOWtBRIDGE BELOWmINVERTED DOUBLE ARCH BEL",
    "OWzbCARON BELOWkIRCUMFLEX ACCENT BELOWxBREVE BELOWlINVERTED BREVE BELOWuTILDE BELOWlMACRON BELOWmLOW LINEiDO",
    "UBLE LOW LINEpTILDE OVERLAYnSHORT STROKE OVERLAYuLONG STROKE OVERLAYtSHORT SOLIDUS OVERLAYvLONG SOLIDUS OVER",
    "LAYuRIGHT HALF RING BELOWvINVERTED BRIDGE BELOWvSQUARE BELOWlEAGULL BELOWnX ABOVEhVERTICAL TILDEoDOUBLE OVER",
    "LINEpGRAVE TONE MARKpACUTE TONE MARKpGREEK PERISPOMENIlKORONIShDIALYTIKA TONOSpYPOGEGRAMMENItBRIDGE ABOVEmEQ",
    "UALS SIGN BELOWrDOUBLE VERTICAL LINE BELOWzbLEFT ANGLE BELOWqNOT TILDE ABOVEpHOMOTHETIC ABOVEqALMOST EQUAL T",
    "O ABOVEvLEFT RIGHT ARROW BELOWwUPWARDS ARROW BELOWtGRAPHEME JOINERpRIGHT ARROWHEAD ABOVEvLEFT HALF RING ABOV",
    "EuFERMATAhX BELOWhLEFT ARROWHEAD BELOWuRIGHT ARROWHEAD BELOWfAND UP ARROWHEAD BELOWzhHALF RING ABOVEvDOT ABO",
    "VE RIGHTpASTERISK BELOWoDOUBLE RING BELOWrZIGZAG ABOVEmDOUBLE BREVE BELOWhEfMACRONa BELOWmTILDEfINVERTED BRE",
    "VEoRIGHTWARDS ARROW BELOWzeLATIN SMALL LETTER AbEbIbObUbCbDbHbMbRbTbVbXzfGREEK CAPITAL LETTER HETAtSMALL LET",
    "TER HETArCAPITAL LETTER ARCHAIC SAMPIzdSMALL LETTER ARCHAIC SAMPIzbNUMERAL SIGNmLOWER NUMERAL SIGNsCAPITAL L",
    "ETTER PAMPHYLIAN DIGAMMAziSMALL LETTER PAMPHYLIAN DIGAMMA"]⟩,
  ⟨0x037A, [
    "aGREEK YPOGEGRAMMENInSMALL REVERSED LUNATE SIGMA SYMBOLzdDOTTED LUNATE SIGMA SYMBOLzbREVERSED DOTTED LUNATE ",
    "SIGMA SYMBOLzqQUESTION MARKnCAPITAL LETTER YOT"]⟩,
  ⟨0x0384, [
    "aGREEK TONOSfDIALYTIKA TONOSpCAPITAL LETTER ALPHA WITH TONOSzgANO TELEIAkCAPITAL LETTER EPSILON WITH TONOSrT",
    "A WITH TONOSoIOTA WITH TONOS"]⟩,
  ⟨0x038C, ["aGREEK CAPITAL LETTER OMICRON WITH TONOS"]⟩,
  ⟨0x038E, [
    "aGREEK CAPITAL LETTER UPSILON WITH TONOSsOMEGA WITH TONOSzgSMALL LETTER IOTA WITH DIALYTIKA AND TONOSzrCAPIT",
    "AL LETTER ALPHAfBETAeGAMMAfDELTAfEPSILONhZETAeETAdTHETAfIOTAeKAPPAfLAMDAfMUcNUcXIcOMICRONhPIcRHO"]⟩,
  ⟨0x03A3, [
    "aGREEK CAPITAL LETTER SIGMAfTAUdUPSILONhPHIdCHIdPSIdOMEGAfIOTA WITH DIALYTIKAtUPSILON WITH DIALYTIKAzmSMALL ",
    "LETTER ALPHA WITH TONOSqEPSILON WITH TONOSrTA WITH TONOSoIOTA WITH TONOSpUPSILON WITH DIALYTIKA AND TONOSzhA",
    "LPHAfBETAeGAMMAfDELTAfEPSILONhZETAeETAdTHETAfIOTAeKAPPAfLAMDAfMUcNUcXIcOMICRONhPIcRHOdFINAL SIGMAlSIGMAfTAUd",
    "UPSILONhPHIdCHIdPSIdOMEGAfIOTA WITH DIALYTIKAtUPSILON WITH DIALYTIKAwOMICRON WITH TONOSsUPSILON WITH TONOSsO",
    "MEGA WITH TONOSzeCAPITAL KAI SYMBOLsBETA SYMBOLlTHETA SYMBOLmUPSILON WITH HOOK SYMBOLlACUTE AND HOOK SYMBOLv",
    "DIAERESIS AND HOOK SYMBOLznPHI SYMBOLjI SYMBOLjKAI SYMBOLkLETTER ARCHAIC KOPPAuSMALL LETTER ARCHAIC KOPPAzbL",
    "ETTER STIGMAnSMALL LETTER STIGMAtLETTER DIGAMMAoSMALL LETTER DIGAMMAuLETTER KOPPAmSMALL LETTER KOPPAsLETTER ",
    "SAMPImSMALL LETTER SAMPIyCOPTIC CAPITAL LETTER SHEItSMALL LETTER SHEIrCAPITAL LETTER FEIsSMALL LETTER FEIqCA",
    "PITAL LETTER KHEItSMALL LETTER KHEIrCAPITAL LETTER HORItSMALL LETTER HORIrCAPITAL LETTER GANGIAvSMALL LETTER",
    " GANGIAtCAPITAL LETTER SHIMAuSMALL LETTER SHIMAsCAPITAL LETTER DEIsSMALL LETTER DEIxGREEK KAPPA SYMBOLmRHO S",
    "YMBOLkLUNATE SIGMA SYMBOLsETTER YOTkCAPITAL THETA SYMBOLuLUNATE EPSILON SYMBOLvREVERSED LUNATE EPSILON SYMBO",
    "LzfCAPITAL LETTER SHOsSMALL LETTER SHOqCAPITAL LUNATE SIGMA SYMBOLsETTER SANsSMALL LETTER SANqRHO WITH STROK",
    "E SYMBOLwCAPITAL REVERSED LUNATE SIGMA SYMBOLzdDOTTED LUNATE SIGMA SYMBOLzbREVERSED DOTTED LUNATE SIGMA SYMB",
    "OLzyCYRILLIC CAPITAL LETTER IE WITH GRAVEmOcDJEdGJEdUKRAINIAN IEmDZEdBYELORUSSIAN-UKRAINIAN IyYIcJEcLJEdNJEd",
    "TSHEeKJEdI WITH GRAVEmSHORT UhDZHEeAbBEcVEcGHEdDEcIEcZHEcEcIbSHORT IhKAcELbMbNcObPEcERbScTEcUbEFcHAcTSEdCHEd",
    "SHAbCHAfHARD SIGNjYERUeSOFT SIGNjEbYUbArSMALL LETTER AbBEcVEcGHEdDEcIEcZHEcEcIbSHORT IhKAcELbMbNcObPEcERbScT",
    "EcUbEFcHAcTSEdCHEdSHAbCHAfHARD SIGNjYERUeSOFT SIGNjEbYUbAcIE WITH GRAVEmOcDJEdGJEdUKRAINIAN IEmDZEdBYELORUSS",
    "IAN-UKRAINIAN IyYIcJEcLJEdNJEdTSHEeKJEdI WITH GRAVEmSHORT UhDZHErCAPITAL LETTER OMEGAuSMALL LETTER OMEGAsCAP",
    "ITAL LETTER YATsSMALL LETTER YATqCAPITAL LETTER IOTIFIED EzaSMALL LETTER IOTIFIED ExCAPITAL LETTER LITTLE YU",
    "SzaSMALL LETTER LITTLE YUSxCAPITAL LETTER IOTIFIED LITTLE YUSzjSMALL LETTER IOTIFIED LITTLE YUSzhCAPITAL LET",
    "TER BIG YUSwSMALL LETTER BIG YUSuCAPITAL LETTER IOTIFIED BIG YUSzgSMALL LETTER IOTIFIED BIG YUSzeCAPITAL LET",
    "TER KSIsSMALL LETTER KSIqCAPITAL LETTER PSIsSMALL LETTER PSIqCAPITAL LETTER FITAtSMALL LETTER FITArCAPITAL L",
    "ETTER IZHITSAwSMALL LETTER IZHITSAuCAPITAL LETTER IZHITSA WITH DOUBLE GRAVE ACCENTzwSMALL LETTER IZHITSA WIT",
    "H DOUBLE GRAVE ACCENTzuCAPITAL LETTER UKrSMALL LETTER UKpCAPITAL LETTER ROUND OMEGAzbSMALL LETTER ROUND OMEG",
    "AyCAPITAL LETTER OMEGA WITH TITLOzgSMALL LETTER OMEGA WITH TITLOzeCAPITAL LETTER OTrSMALL LETTER OTpCAPITAL ",
    "LETTER KOPPAuSMALL LETTER KOPPAsTHOUSANDS SIGNwOMBINING CYRILLIC TITLOfPALATALIZATIONoDASIA PNEUMATAoPSILI P",
    "NEUMATAnOKRYTIEiHUNDRED THOUSANDS SIGNwMILLIONS SIGNzgYRILLIC CAPITAL LETTER SHORT I WITH TAILzhSMALL LETTER",
    " SHORT I WITH TAILzfCAPITAL LETTER SEMISOFT SIGNzdSMALL LETTER SEMISOFT SIGNzbCAPITAL LETTER ER WITH TICKzcS",
    "MALL LETTER ER WITH TICKzaCAPITAL LETTER GHE WITH UPTURNzfSMALL LETTER GHE WITH UPTURNzdCAPITAL LETTER GHE W",
    "ITH STROKEzfSMALL LETTER GHE WITH STROKEzdCAPITAL LETTER GHE WITH MIDDLE HOOKzkSMALL LETTER GHE WITH MIDDLE ",
    "HOOKziCAPITAL LETTER ZHE WITH DESCENDERziSMALL LETTER ZHE WITH DESCENDERzgCAPITAL LETTER ZE WITH DESCENDERzh",
    "SMALL LETTER ZE WITH DESCENDERzfCAPITAL LETTER KA WITH DESCENDERzhSMALL LETTER KA WITH DESCENDERzfCAPITAL LE",
    "TTER KA WITH VERTICAL STROKEznSMALL LETTER KA WITH VERTICAL STROKEzlCAPITAL LETTER KA WITH STROKEzeSMALL LET",
    "TER KA WITH STROKEzcCAPITAL LETTER BASHKIR KAzaSMALL LETTER BASHKIR KAxCAPITAL LETTER EN WITH DESCENDERzhSMA",
    "LL LETTER EN WITH DESCENDERzfCAPITAL LIGATURE EN GHExSMALL LIGATURE EN GHEvCAPITAL LETTER PE WITH MIDDLE HOO",
    "KzjSMALL LETTER PE WITH MIDDLE HOOKzhCAPITAL LETTER ABKHASIAN HAzcSMALL LETTER ABKHASIAN HAzaCAPITAL LETTER ",
    "ES WITH DESCENDERzhSMALL LETTER ES WITH DESCENDERzfCAPITAL LETTER TE WITH DESCENDERzhSMALL LETTER TE WITH DE",
    "SCENDERzfCAPITAL LETTER STRAIGHT UzaSMALL LETTER STRAIGHT UxCAPITAL LETTER STRAIGHT U WITH STROKEzmSMALL LET",
    "TER STRAIGHT U WITH STROKEzkCAPITAL LETTER HA WITH DESCENDERzhSMALL LETTER HA WITH DESCENDERzfCAPITAL LIGATU",
    "RE TE TSExSMALL LIGATURE TE TSEvCAPITAL LETTER CHE WITH DESCENDERziSMALL LETTER CHE WITH DESCENDERzgCAPITAL ",
    "LETTER CHE WITH VERTICAL STROKEzoSMALL LETTER CHE WITH VERTICAL STROKEzmCAPITAL LETTER SHHAtSMALL LETTER SHH",
    "ArCAPITAL LETTER ABKHASIAN CHEzdSMALL LETTER ABKHASIAN CHEzbCAPITAL LETTER ABKHASIAN CHE WITH DESCENDERzsSMA",
    "LL LETTER ABKHASIAN CHE WITH DESCENDERzqLETTER PALOCHKApCAPITAL LETTER ZHE WITH BREVEzeSMALL LETTER ZHE WITH",
    " BREVEzcCAPITAL LETTER KA WITH HOOKzcSMALL LETTER KA WITH HOOKzaCAPITAL LETTER EL WITH TAILzcSMALL LETTER EL",
    " WITH TAILzaCAPITAL LETTER EN WITH HOOKzcSMALL LETTER EN WITH HOOKzaCAPITAL LETTER EN WITH TAILzcSMALL LETTE",
    "R EN WITH TAILzaCAPITAL LETTER KHAKASSIAN CHEzeSMALL LETTER KHAKASSIAN CHEzcCAPITAL LETTER EM WITH TAILzcSMA",
    "LL LETTER EM WITH TAILmPALOCHKAvCAPITAL LETTER A WITH BREVEzcSMALL LETTER A WITH BREVEzaCAPITAL LETTER A WIT",
    "H DIAERESISzgSMALL LETTER A WITH DIAERESISzeCAPITAL LIGATURE A IEvSMALL LIGATURE A IEtCAPITAL LETTER IE WITH",
    " BREVEzdSMALL LETTER IE WITH BREVEzbCAPITAL LETTER SCHWAuSMALL LETTER SCHWAsCAPITAL LETTER SCHWA WITH DIAERE",
    "SISzkSMALL LETTER SCHWA WITH DIAERESISziCAPITAL LETTER ZHE WITH DIAERESISziSMALL LETTER ZHE WITH DIAERESISzg",
    "CAPITAL LETTER ZE WITH DIAERESISzhSMALL LETTER ZE WITH DIAERESISzfCAPITAL LETTER ABKHASIAN DZEzdSMALL LETTER",
    " ABKHASIAN DZEzbCAPITAL LETTER I WITH MACRONzdSMALL LETTER I WITH MACRONzbCAPITAL LETTER I WITH DIAERESISzgS",
    "MALL LETTER I WITH DIAERESISzeCAPITAL LETTER O WITH DIAERESISzgSMALL LETTER O WITH DIAERESISzeCAPITAL LETTER",
    " BARRED OxSMALL LETTER BARRED OvCAPITAL LETTER BARRED O WITH DIAERESISznSMALL LETTER BARRED O WITH DIAERESIS",
    "zlCAPITAL LETTER E WITH DIAERESISzgSMALL LETTER E WITH DIAERESISzeCAPITAL LETTER U WITH MACRONzdSMALL LETTER",
    " U WITH MACRONzbCAPITAL LETTER U WITH DIAERESISzgSMALL LETTER U WITH DIAERESISzeCAPITAL LETTER U WITH DOUBLE",
    " ACUTEzjSMALL LETTER U WITH DOUBLE ACUTEzhCAPITAL LETTER CHE WITH DIAERESISziSMALL LETTER CHE WITH DIAERESIS",
    "zgCAPITAL LETTER GHE WITH DESCENDERziSMALL LETTER GHE WITH DESCENDERzgCAPITAL LETTER YERU WITH DIAERESISzjSM",
    "ALL LETTER YERU WITH DIAERESISzhCAPITAL LETTER GHE WITH STROKE AND HOOKzoSMALL LETTER GHE WITH STROKE AND HO",
    "OKzmCAPITAL LETTER HA WITH HOOKzcSMALL LETTER HA WITH HOOKzaCAPITAL LETTER HA WITH STROKEzeSMALL LETTER HA W",
    "ITH STROKEzcCAPITAL LETTER KOMI DEwSMALL LETTER KOMI DEuCAPITAL LETTER KOMI DJExSMALL LETTER KOMI DJEvCAPITA",
    "L LETTER KOMI ZJExSMALL LETTER KOMI ZJEvCAPITAL LETTER KOMI DZJEySMALL LETTER KOMI DZJEwCAPITAL LETTER KOMI ",
    "LJExSMALL LETTER KOMI LJEvCAPITAL LETTER KOMI NJExSMALL LETTER KOMI NJEvCAPITAL LETTER KOMI SJExSMALL LETTER",
    " KOMI SJEvCAPITAL LETTER KOMI TJExSMALL LETTER KOMI TJEvCAPITAL LETTER REVERSED ZEzbSMALL LETTER REVERSED ZE",
    "yCAPITAL LETTER EL WITH HOOKzcSMALL LETTER EL WITH HOOKzaCAPITAL LETTER LHAsSMALL LETTER LHAqCAPITAL LETTER ",
    "RHAsSMALL LETTER RHAqCAPITAL LETTER YAEsSMALL LETTER YAEqCAPITAL LETTER QArSMALL LETTER QApCAPITAL LETTER WE",
    "rSMALL LETTER WEpCAPITAL LETTER ALEUT KAxSMALL LETTER ALEUT KAvCAPITAL LETTER EL WITH MIDDLE HOOKzjSMALL LET",
    "TER EL WITH MIDDLE HOOKzhCAPITAL LETTER EN WITH MIDDLE HOOKzjSMALL LETTER EN WITH MIDDLE HOOKzhCAPITAL LETTE",
    "R PE WITH DESCENDERzhSMALL LETTER PE WITH DESCENDERzfCAPITAL LETTER SHHA WITH DESCENDERzjSMALL LETTER SHHA W",
    "ITH DESCENDERzhCAPITAL LETTER EN WITH LEFT HOOKzhSMALL LETTER EN WITH LEFT HOOKzfCAPITAL LETTER DZZHEuSMALL ",
    "LETTER DZZHEsCAPITAL LETTER DCHEtSMALL LETTER DCHErCAPITAL LETTER EL WITH DESCENDERzhSMALL LETTER EL WITH DE",
    "SCENDER"]⟩,
  ⟨0x0531, [
    "aARMENIAN CAPITAL LETTER AYBdBENdGIMdDAcECHdZAcEHbTcTOcZHEdINIdLIWNeXEHdCAcKENdHOcJAcGHADeCHEHeMENdYIcNOWdSH",
    "AdVOcCHAdPEHdJHEHeRAcSEHdVEWdTIWNeREHdCOcYIWNePIWReKEHdOHcFEH"]⟩,
  ⟨0x0559, [
    "aARMENIAN MODIFIER LETTER LEFT HALF RINGzfAPOSTROPHEkEMPHASIS MARKmXCLAMATION MARKqCOMMAfQUESTION MARKnABBRE",
    "VIATION MARKrSMALL LETTER TURNED AYBkAYBdBENdGIMdDAcECHdZAcEHbTcTOcZHEdINIdLIWNeXEHdCAcKENdHOcJAcGHADeCHEHeM",
    "ENdYIcNOWdSHAdVOcCHAdPEHdJHEHeRAcSEHdVEWdTIWNeREHdCOcYIWNePIWReKEHdOHcFEHjIGATURE ECH YIWNqETTER YI WITH STR",
    "OKEzcFULL STOPjHYPHEN"]⟩,
  ⟨0x058D, ["aRIGHT-FACING ARMENIAN ETERNITY SIGNzkLEFT-FACING ARMENIAN ETERNITY SIGNzjARMENIAN DRAM SIGN"]⟩,
  ⟨0x0591, [
    "aHEBREW ACCENT ETNAHTAhSEGOLeHALSHELETkZAQEF QATANfGADOLlTIPEHAgREVIAfZARQAfPASHTAgYETIVfTEVIRfGERESHa MUQDA",
    "MkSHAYIMjQARNEY PARAlTELISHA GEDOLAoPAZERfATNAH HAFUKHmMUNAHeAHAPAKHhERKHAa KEFULAnDARGAfQADMAfTELISHA QETAN",
    "AoYERAH BEN YOMOoOLEdILUYeDEHIeZINORmMARK MASORA CIRCLEsPOINT SHEVAfHATAF SEGOLfPATAHfQAMATSlIRIQfTSEREfSEGO",
    "LfPATAHfQAMATSgHOLAMa HASER FOR VAVtQUBUTSgDAGESH OR MAPIQpMETEGkUNCTUATION MAQAFqOINT RAFEjUNCTUATION PASEQ",
    "qOINT SHIN DOThIN DOTmUNCTUATION SOF PASUQvMARK UPPER DOTjLOWER DOToPUNCTUATION NUN HAFUKHAwOINT QAMATS QATA",
    "N"]⟩,
  ⟨0x05D0, [
    "aHEBREW LETTER ALEFeBETdGIMELfDALETfHEcVAVdZAYINfHETdTETdYODdFINAL KAFjKAFdLAMEDfFINAL MEMjMEMdFINAL NUNjNUN",
    "dSAMEKHgAYINeFINAL PEiPEcFINAL TSADIlTSADIfQOFdRESHeSHINeTAV"]⟩,
  ⟨0x05EF, ["aHEBREW YOD TRIANGLEmLIGATURE YIDDISH DOUBLE VAVkVAV YODhDOUBLE YODzcPUNCTUATION GERESHdSHAYIM"]⟩,
  ⟨0x0600, [
    "aARABIC NUMBER SIGNlSIGN SANAHkFOOTNOTE MARKERpSIGN SAFHAdMVATlNUMBER MARK ABOVEs-INDIC CUBE ROOTjFOURTH ROO",
    "Ts RAYe-INDIC PER MILLE SIGNkTEN THOUSAND SIGNziFGHANI SIGNlRABIC COMMAfDATE SEPARATORoPOETIC VERSE SIGNrSIG",
    "N MISRAfSALLALLAHOU ALAYHE WASSALLAMzdALAYHE ASSALLAMpRAHMATULLAH ALAYHEqDI ALLAHOU ANHUrTAKHALLUSnMALL HIGH",
    " TAHdLIGATURE ALEF WITH LAM WITH YEHzgZAINjFATHAfDAMMAfKASRAkEMICOLONjLETTER MARKlEND OF TEXT MARKqTRIPLE DO",
    "T PUNCTUATION MARKzcQUESTION MARKnLETTER KASHMIRI YEHmHAMZAfALEF WITH MADDA ABOVElHAMZA ABOVEvWAW WITH HAMZA",
    " ABOVEuALEF WITH HAMZA BELOWvYEH WITH HAMZA ABOVEuALEFeBEHdTEH MARBUTAjHcHEHeJEEMeHAHdKHAHeDALdTHALeREHdZAIN",
    "eSEENdHEENeADdDADdTAHdZAHdAINdGHAINfKEHEH WITH TWO DOTS ABOVEnHREE DOTS BELOWzcFARSI YEH WITH INVERTED VkTWO",
    " DOTS ABOVEnHREE DOTS ABOVEznTATWEELhLETTER FEHdQAFdKAFdLAMdMEEMeNOONeHEHdWAWdALEF MAKSURAmYEHkFATHATANiDAMM",
    "ATANiKASRATANiFATHAfDAMMAfKASRAfSHADDAfUKUNfMADDAH ABOVEmHAMZA ABOVEfBELOWlSUBSCRIPT ALEFoINVERTED DAMMAoMAR",
    "K NOON GHUNNAqZWARAKAYiVOWEL SIGN SMALL V ABOVEnINVERTED SMALL V ABOVEwDOT BELOWuREVERSED DAMMAoFATHA WITH T",
    "WO DOTStWAVY HAMZA BELOWr-INDIC DIGIT ZEROeONEdTWOcHREEfFOURdIVEeSIXcEVENfEIGHTfNINEr PERCENT SIGNmDECIMAL S",
    "EPARATORrTHOUSANDS SEPARATORtFIVE POINTED STARrLETTER DOTLESS BEHdQAFlSUPERSCRIPT ALEFqALEF WASLAeITH WAVY H",
    "AMZA ABOVEfBELOWzbHIGH HAMZAa ALEFeWAWoU WITH HAMZA ABOVEsHIGH HAMZA YEHoTTEHaEHgBEEHeTEH WITH RINGeTHREE DO",
    "TS ABOVE DOWNWARDSzkPEHdTEHEHfBEHEHfHAH WITH HAMZA ABOVElTWO DOTS VERTICAL ABOVEzhNYEHeDYEHeHAH WITH THREE D",
    "OTS ABOVEzaTCHEHaEHhDDALdAL WITH RINGeDOT BELOWa AND SMALL TAHzfHALeDAHALfULcAL WITH THREE DOTS ABOVE DOWNWA",
    "RDSzbFOUR DOTS ABOVEyRREHdEH WITH SMALL VhRINGeDOT BELOWjSMALL V BELOWnDOT BELOW AND DOT ABOVExTWO DOTS ABOV",
    "ExJEHdREH WITH FOUR DOTS ABOVEySEEN WITH DOT BELOW AND DOT ABOVExTHREE DOTS BELOWa AND THREE DOTS ABOVEzvAD ",
    "WITH TWO DOTS BELOWnHREE DOTS ABOVEzaTAH WITH THREE DOTS ABOVEzaAIN WITH THREE DOTS ABOVEzaDOTLESS FEHlFEH W",
    "ITH DOT MOVED BELOWlBELOWsVEHdFEH WITH THREE DOTS BELOWzaPEHEHfQAF WITH DOT ABOVEjTHREE DOTS ABOVEzaKEHEHfSW",
    "ASH KAFjKAF WITH RINGeDOT ABOVEsNGcKAF WITH THREE DOTS BELOWzaGAFa WITH RINGnNGOEHfGAF WITH TWO DOTS BELOWwU",
    "EHdAF WITH THREE DOTS ABOVEzaLAM WITH SMALL VhDOT ABOVEjTHREE DOTS ABOVEfBELOWzaNOON WITH DOT BELOWoGHUNNAlR",
    "NOONfNOON WITH RINGeTHREE DOTS ABOVEzbHEH DOACHASHMEEpTCHEH WITH DOT ABOVEuHEH WITH YEH ABOVEoGOALa WITH HAM",
    "ZA ABOVEzaTEH MARBUTA GOALqWAW WITH RINGnKIRGHIZ OEkOEcUbYUcKIRGHIZ YUkWAW WITH TWO DOTS ABOVExVEcFARSI YEHj",
    "YEH WITH TAILeSMALL VqWAW WITH DOT ABOVEsEbYEH WITH THREE DOTS BELOWvBARREEa WITH HAMZA ABOVEzjFULL STOPjLET",
    "TER AEjSMALL HIGH LIGATURE SAD WITH LAM WITH ALEF MAKSURAzfQAF WITH LAM WITH ALEF MAKSURAzoMEEM INITIAL FORM",
    "rLAM ALEFiJEEMeTHREE DOTSkSEENpEND OF AYAHlSTART OF RUB EL HIZBtMALL HIGH ROUNDED ZEROmUPRIGHT RECTANGULAR Z",
    "EROyDOTLESS HEAD OF KHAHuMEEM ISOLATED FORMxLOW SEENiHIGH MADDAkWAWdYEHdHIGH YEHdNOONpPLACE OF SAJDAHpEMPTY ",
    "CENTRE LOW STOPiHIGH STOPwROUNDED HIGH STOP WITH FILLED CENTREzlSMALL LOW MEEMoLETTER DAL WITH INVERTED VtRE",
    "H WITH INVERTED VziEXTENDED ARABIC-INDIC DIGIT ZEROeONEdTWOcHREEfFOURdIVEeSIXcEVENfEIGHTfNINEzhARABIC LETTER",
    " SHEEN WITH DOT BELOWuDAD WITH DOT BELOWsGHAIN WITH DOT BELOWzcSIGN SINDHI AMPERSANDjPOSTPOSITION MENzdLETTE",
    "R HEH WITH INVERTED VziSYRIAC END OF PARAGRAPHqSUPRALINEAR FULL STOPtBLINEAR FULL STOPrPRALINEAR COLONpBLINE",
    "AR COLONpHORIZONTAL COLONqCOLON SKEWED LEFTeRIGHTsSUPRALINEAR COLON SKEWED LEFTzcBLINEAR COLON SKEWED RIGHTz",
    "dCONTRACTIONlHARKLEAN OBELUSgMETOBELUSjASTERISCUS"]⟩,
  ⟨0x070F, [
    "aSYRIAC ABBREVIATION MARKrLETTER ALAPHfSUPERSCRIPT ALAPHrBETHeGAMALa GARSHUNIoDALATHfOTLESS DALATH RISHtHEcW",
    "AWdZAINeHETHeTETHa GARSHUNInYUDHa HEhKAPHeLAMADHgMIMdNUNdSEMKATHhFINAL SEMKATHnEbPEcREVERSED PElSADHEfQAPHeR",
    "ISHeSHINeTAWdPERSIAN BHETHfGHAMALgDHALATHwPTHAHA ABOVEfBELOWfDOTTEDnZQAPHA ABOVEfBELOWfDOTTEDnRBASA ABOVEfBE",
    "LOWlDOTTED ZLAMA HORIZONTALkANGULARuHBASA ABOVEfBELOWg-ESASA DOTTEDsESASA ABOVEfBELOWlRWAHAfFEMININE DOTmQUS",
    "HSHAYAjRUKKAKHAiTWO VERTICAL DOTS ABOVEfBELOWwHREE DOTS ABOVEfBELOWqOBLIQUE LINE ABOVEfBELOWsMUSICfBARREKH"]⟩,
  ⟨0x074D, [
    "aSYRIAC LETTER SOGDIAN ZHAINfKHAPHfFEyARABIC LETTER BEH WITH THREE DOTS HORIZONTALLY BELOWzeDOT BELOW AND TH",
    "REE DOTS ABOVEzfTHREE DOTS POINTING UPWARDS BELOWa AND TWO DOTS ABOVEzzbWO DOTS BELOW AND DOT ABOVEzdINVERTE",
    "D SMALL V BELOWwSMALL VqHAH WITH TWO DOTS ABOVEnHREE DOTS POINTING UPWARDS BELOWzrDAL WITH TWO DOTS VERTICAL",
    "LY BELOW AND SMALL TAHzoINVERTED SMALL V BELOWzgREH WITH STROKEpSEEN WITH FOUR DOTS ABOVEzaAIN WITH TWO DOTS",
    " ABOVEnHREE DOTS POINTING DOWNWARDS ABOVEzjWO DOTS VERTICALLY ABOVEzjFEH WITH TWO DOTS BELOWnHREE DOTS POINT",
    "ING UPWARDS BELOWzrKEHEH WITH DOT ABOVEjTHREE DOTS ABOVEfPOINTING UPWARDS BELOWztMEEM WITH DOT ABOVEfBELOWtN",
    "OON WITH TWO DOTS BELOWoSMALL TAHdVrLAM WITH BARmREH WITH TWO DOTS VERTICALLY ABOVEzaHAMZA ABOVEuSEEN WITH T",
    "WO DOTS VERTICALLY ABOVEzkHAH WITH SMALL ARABIC LETTER TAH BELOWfAND TWO DOTSzuSEEN WITH SMALL ARABIC LETTER",
    " TAH AND TWO DOTSzvREH WITH SMALL ARABIC LETTER TAH AND TWO DOTSzuHAH WITH SMALL ARABIC LETTER TAH ABOVEznAL",
    "EF WITH EXTENDED ARABIC-INDIC DIGIT TWO ABOVEiHREE ABOVEzyFARSI YEH WITH EXTENDED ARABIC-INDIC DIGIT TWO ABO",
    "VEiHREE ABOVElFOUR BELOWzzdWAW WITH EXTENDED ARABIC-INDIC DIGIT TWO ABOVEiHREE ABOVEzxYEH BARREE WITH EXTEND",
    "ED ARABIC-INDIC DIGIT TWO ABOVEiHREE ABOVEzzfHAH WITH EXTENDED ARABIC-INDIC DIGIT FOUR BELOWzwSEEN WITH EXTE",
    "NDED ARABIC-INDIC DIGIT FOUR ABOVEznINVERTED VuKAF WITH TWO DOTS ABOVEzmTHAANA LETTER HAAdSHAVIYANIjNOONUfRA",
    "AdBAAdLHAVIYANIjKAAFUfALIFUfVAAVUfMEEMUfFAAFUfDHAALUgTHAAeLAAMUfGAAFUeNAVIYANIjSEENUfDAVIYANIiZAVIYANIiTAVIY",
    "ANIiYAAdPAVIYANIiJAVIYANIiCHAVIYANIjTTAAeHHAAeKHAAeTHAALUgZAAdSHEENUfAADHUgDAADHUgTOcZOcAINUeGHAINUgQAAFUfWA",
    "AVUmABAFILIgABAAFILIjIBIFILIhEEBEEFILIjUBUFILIhOOBOOFILIjEBEFILIgYBEYFILIjOBOFILIgABOAFILIjSUKUNfLETTER NAA"]⟩,
  ⟨0x07C0, [
    "aNKO DIGIT ZEROeONEdTWOcHREEfFOURdIVEeSIXcEVENfEIGHTfNINEkLETTER AbEEcIbEbUbOOcObDAGBASINNAkNbBAcPAcTAcJAcCH",
    "AdDAcRAbRAdSAcGBAdFAcKAcLAcNA WOLOSOjMAcNYAcAcHAcWAcYAcNYA WOLOSOkJONA JAcCHAdRAoCOMBINING SHORT HIGH TONEjL",
    "OW TONEiRISING TONErLONG DESCENDING TONEpHIGH TONEjLOW TONEiRISING TONEqNASALIZATION MARKrDOUBLE DOT ABOVEzb",
    "HIGH TONE APOSTROPHEuLOW TONE APOSTROPHEtSYMBOL OO DENNENjGBAKURUNENrCOMMAfEXCLAMATION MARKqLAJANYALAN"]⟩,
  ⟨0x07FD, [
    "aNKO DANTAYALANjOROME SIGNlTAMAN SIGNoSAMARITAN LETTER ALAFeBITdGAMANfDALATfIYcBAAdZENdITcTITdYUTdKAAFeLABAT",
    "fMIMdNUNdSINGAAThINcFIcTSAADIYhQUFdRISHeSHANeTAAFlMARK INa-ALAFhOCCLUSIONjDAGESHkODIFIER LETTER EPENTHETIC Y",
    "UTzeARK EPENTHETIC YUTtVOWEL SIGN LONG EgEbOVERLONG AAlLONG AAhAAcOVERLONG AkLONG AgAmMODIFIER LETTER SHORT ",
    "AxVOWEL SIGN SHORT AhLONG UgUmMODIFIER LETTER IrVOWEL SIGN LONG IgIbObSUKUNqMARK NEQUDAA"]⟩,
  ⟨0x0830, [
    "aSAMARITAN PUNCTUATION NEQUDAAhAFSAAQfNGEDfBAUdATMAAUgSHIYYAALAAwABBREVIATION MARKrPUNCTUATION MELODIC QITSA",
    "nZIQAAfQITSAfZAEFeTURUeARKAANUhSOF MASHFAATmANNAAU"]⟩,
  ⟨0x0840, [
    "aMANDAIC LETTER HALQAfABbGbDbHcUSHENNAhAZcITcATTcKSAdKbLbMbNbScINcAPbSZcQbRbSHcTcDUSHENNAiKADdAINkAFFRICATIO",
    "N MARKqVOCALIZATION MARKrGEMINATION MARK"]⟩,
  ⟨0x085E, ["aMANDAIC PUNCTUATION"]⟩,
  ⟨0x0860, ["aSYRIAC LETTER MALAYALAM NGAdJAcNYAdTTAdNNAbNAeBHAdRAcLLAbLAeSSA"]⟩,
  ⟨0x0870, [
    "aARABIC LETTER ALEF WITH ATTACHED FATHAfTOP RIGHT FATHAyRIGHT MIDDLE STROKEtLEFT MIDDLE STROKEsATTACHED KASR",
    "AfBOTTOM RIGHT KASRAsROUND DOT ABOVEoIGHT ROUND DOTpLEFT ROUND DOToROUND DOT BELOWyDOT ABOVEjATTACHED TOP RI",
    "GHT FATHA AND DOT ABOVEznRIGHT MIDDLE STROKE AND DOT ABOVEziATTACHED BOTTOM RIGHT KASRA AND DOT ABOVEzhTOP R",
    "IGHT FATHA AND LEFT RINGznRIGHT MIDDLE STROKE AND LEFT RINGziATTACHED BOTTOM RIGHT KASRA AND LEFT RINGzhRIGH",
    "T HAMZAlLEFT HAMZAzlTATWEEL WITH OVERSTRUCK HAMZAfWAWoTWO DOTS BELOWzcLETTER THIN YEHpBASELINE ROUND DOTsRAI",
    "SED ROUND DOTqLETTER NOON WITH INVERTED SMALL VzbHAH WITH INVERTED SMALL V BELOWzgTAH WITH DOT BELOWjTHREE D",
    "OTS BELOWzaKEHEH WITH TWO DOTS VERTICALLY BELOWzsVERTICAL TAIL"]⟩,
  ⟨0x0890, ["aARABIC POUND MARK ABOVEpIASTRE MARK ABOVE"]⟩,
  ⟨0x0898, [
    "aARABIC SMALL HIGH WORD AL-JUZqLOW WORD ISHMAAMgMAALAgTASHEELwMADDA WAAJIBmSUPERSCRIPT ALEF MOKHASSASzbDOUBL",
    "ED MADDAnHALF MADDA OVER MADDAvLETTER BEH WITH SMALL V BELOWnHAMZA ABOVEuJEEM WITH TWO DOTS ABOVEyTAH WITH T",
    "WO DOTS ABOVExFEH WITH DOT BELOW AND THREE DOTS ABOVEzoQAF WITH DOT BELOWsLAM WITH DOUBLE BARtMEEM WITH THRE",
    "E DOTS ABOVEzbYEH WITH TWO DOTS BELOW AND HAMZA ABOVElDOT ABOVEzmREH WITH LOOPnWAW WITH DOT WITHINtROHINGYA ",
    "YEHmLOW ALEFiDAL WITH THREE DOTS BELOWzaSAD WITH THREE DOTS BELOWzaGAF WITH INVERTED STROKEySTRAIGHT WAWmZAI",
    "N WITH INVERTED V ABOVEzbAIN WITH THREE DOTS BELOWzaKAF WITH DOT BELOWsQAF WITH DOT BELOW AND NO DOTS ABOVEz",
    "lBEH WITH SMALL MEEM ABOVEzaPEH WITH SMALL MEEM ABOVEzaTEH WITH SMALL TEH ABOVEyREH WITH SMALL NOON ABOVEzaY",
    "EH WITH TWO DOTS BELOW AND SMALL NOON ABOVEztAFRICAN FEHdQAFdNOONmPEH WITH SMALL VqTEH WITH SMALL VpTEH WITH",
    " SMALL VqCHEH WITH SMALL VsKEHEH WITH SMALL VsGHAIN WITH THREE DOTS ABOVEzcAFRICAN QAF WITH THREE DOTS ABOVE",
    "ziJEEM WITH THREE DOTS ABOVEfBELOWzbLAM WITH SMALL ARABIC LETTER TAH ABOVEznGRAFlSMALL FARSI YEHjHIGH FARSI ",
    "YEHjYEH BARREE WITH TWO DOTS BELOWzfWORD SAHiZAHoLARGE ROUND DOT ABOVEfBELOWvSUKUN BELOWlLARGE CIRCLE BELOWm",
    "ROUND DOT INSIDE CIRCLE BELOWzkSMALL LOW WAWhHIGH WORD AR-RUBlSADdAINdQAFdNOON WITH KASRAuLOW NOON WITH KASR",
    "AtHIGH WORD ATH-THALATHAlS-SAJDAhN-NISFhSAKTAfQIFdWAQFAkFOOTNOTE MARKERpSIGN SAFHAvDISPUTED END OF AYAHuTURN",
    "ED DAMMA BELOWsCURLY FATHAfDAMMAfKASRAfFATHATANiDAMMATANiKASRATANoTONE ONE DOT ABOVEnTWO DOTS ABOVEoLOOP ABO",
    "VEkONE DOT BELOWnTWO DOTS BELOWoLOOP BELOWpOPEN FATHATANiDAMMATANiKASRATANnSMALL HIGH WAWoFATHA WITH RINGeDO",
    "T ABOVEuKASRA WITH DOT BELOWuLEFT ARROWHEAD ABOVEuRIGHT ARROWHEAD ABOVEvLEFT ARROWHEAD BELOWuRIGHT ARROWHEAD",
    " BELOWvDOUBLE RIGHT ARROWHEAD ABOVEa WITH DOTzmRIGHT ARROWHEAD ABOVE WITH DOTzfDAMMA WITH DOToMARK SIDEWAYS ",
    "NOON GHUNNAzhDEVANAGARI SIGN INVERTED CANDRABINDUuCANDRABINDUlANUSVARAiVISARGAmLETTER SHORT AhAaAcIaIcUaUcVO",
    "CALIC RbLjCANDRA EiSHORT EhEbAIcCANDRA OiSHORT OhObAUcKAbHAdGAbHAdNGAdCAbHAdJAbHAdNYAdTTAbHAeDDAbHAeNNAdTAbH",
    "AdDAbHAdNAbNNAePAbHAdBAbHAdMAcYAcRAbRAdLAbLAbLAeVAcSHAcSAcAcHAjVOWEL SIGN OEbOEoSIGN NUKTAfAVAGRAHAnVOWEL SI",
    "GN AAcIaIcUaUcVOCALIC RaRkCANDRA EiSHORT EhEbAIcCANDRA OiSHORT OhObAUnSIGN VIRAMAlVOWEL SIGN PRISHTHAMATRA E",
    "pAWnOMcSTRESS SIGN UDATTAgANUDATTAuGRAVE ACCENTmACUTE ACCENTmVOWEL SIGN CANDRA LONG EnUEbUEoLETTER QAcKHHAeG",
    "HHAeZAcDDDHAfRHAdFAcYYAdVOCALIC RRcLLrVOWEL SIGN VOCALIC LaLvDANDAeOUBLE DANDAlIGIT ZEROeONEdTWOcHREEfFOURdI",
    "VEeSIXcEVENfEIGHTfNINEkABBREVIATION SIGNrSIGN HIGH SPACING DOTvLETTER CANDRA AiOEbOEdAWcUEbUEdMARWARI DDAlZH",
    "AdHEAVY YAiGGAdJJAdGLOTTAL STOPmDDDAeBBAvBENGALI ANJIeSIGN CANDRABINDUlANUSVARAiVISARGA"]⟩,
  ⟨0x0985, ["aBENGALI LETTER AaAcIaIcUaUcVOCALIC RbL"]⟩,
  ⟨0x098F, ["aBENGALI LETTER EbAI"]⟩,
  ⟨0x0993, ["aBENGALI LETTER ObAUcKAbHAdGAbHAdNGAdCAbHAdJAbHAdNYAdTTAbHAeDDAbHAeNNAdTAbHAdDAbHAdNA"]⟩,
  ⟨0x09AA, ["aBENGALI LETTER PAbHAdBAbHAdMAcYAcRA"]⟩,
  ⟨0x09B2, ["aBENGALI LETTER LA"]⟩,
  ⟨0x09B6, ["aBENGALI LETTER SHAcSAcAcHA"]⟩,
  ⟨0x09BC, ["aBENGALI SIGN NUKTAfAVAGRAHAnVOWEL SIGN AAcIaIcUaUcVOCALIC RaR"]⟩,
  ⟨0x09C7, ["aBENGALI VOWEL SIGN EbAI"]⟩,
  ⟨0x09CB, ["aBENGALI VOWEL SIGN ObAUnSIGN VIRAMAlLETTER KHANDA TA"]⟩,
  ⟨0x09D7, ["aBENGALI AU LENGTH MARK"]⟩,
  ⟨0x09DC, ["aBENGALI LETTER RRAcHA"]⟩,
  ⟨0x09DF, ["aBENGALI LETTER YYAdVOCALIC RRcLLrVOWEL SIGN VOCALIC LaL"]⟩,
  ⟨0x09E6, [
    "aBENGALI DIGIT ZEROeONEdTWOcHREEfFOURdIVEeSIXcEVENfEIGHTfNINEkLETTER RA WITH MIDDLE DIAGONALpLOWER DIAGONALz",
    "eRUPEE MARKeSIGNkCURRENCY NUMERATOR ONEdTWOcHREEfFOUReONE LESS THAN THE DENOMINATORzoDENOMINATOR SIXTEENzdIS",
    "SHARgGANDA MARKkLETTER VEDIC ANUSVARAvABBREVIATION SIGNrSANDHI MARK"]⟩,
  ⟨0x0A01, ["aGURMUKHI SIGN ADAK BINDIkBINDIfVISARGA"]⟩,
  ⟨0x0A05, ["aGURMUKHI LETTER AaAcIaIcUaU"]⟩,
  ⟨0x0A0F, ["aGURMUKHI LETTER EEcAI"]⟩,
  ⟨0x0A13, ["aGURMUKHI LETTER OOcAUcKAbHAdGAbHAdNGAdCAbHAdJAbHAdNYAdTTAbHAeDDAbHAeNNAdTAbHAdDAbHAdNA"]⟩,
  ⟨0x0A2A, ["aGURMUKHI LETTER PAbHAdBAbHAdMAcYAcRA"]⟩,
  ⟨0x0A32, ["aGURMUKHI LETTER LAbLA"]⟩,
  ⟨0x0A35, ["aGURMUKHI LETTER VAcSHA"]⟩,
  ⟨0x0A38, ["aGURMUKHI LETTER SAcHA"]⟩,
  ⟨0x0A3C, ["aGURMUKHI SIGN NUKTA"]⟩,
  ⟨0x0A3E, ["aGURMUKHI VOWEL SIGN AAcIaIcUaU"]⟩,
  ⟨0x0A47, ["aGURMUKHI VOWEL SIGN EEcAI"]⟩,
  ⟨0x0A4B, ["aGURMUKHI VOWEL SIGN OOcAUnSIGN VIRAMA"]⟩,
  ⟨0x0A51, ["aGURMUKHI SIGN UDAAT"]⟩,
  ⟨0x0A59, ["aGURMUKHI LETTER KHHAeGHHAeZAcRRA"]⟩,
  ⟨0x0A5E, ["aGURMUKHI LETTER FA"]⟩,
  ⟨0x0A66, [
    "aGURMUKHI DIGIT ZEROeONEdTWOcHREEfFOURdIVEeSIXcEVENfEIGHTfNINEkTIPPIfADDAKfIRIdURAdEK ONKARiSIGN YAKASHlABBR",
    "EVIATION SIGN"]⟩,
  ⟨0x0A81, ["aGUJARATI SIGN CANDRABINDUlANUSVARAiVISARGA"]⟩,
  ⟨0x0A85, ["aGUJARATI LETTER AaAcIaIcUaUcVOCALIC RbLqVOWEL CANDRA E"]⟩,
  ⟨0x0A8F, ["aGUJARATI LETTER EbAIjVOWEL CANDRA O"]⟩,
  ⟨0x0A93, ["aGUJARATI LETTER ObAUcKAbHAdGAbHAdNGAdCAbHAdJAbHAdNYAdTTAbHAeDDAbHAeNNAdTAbHAdDAbHAdNA"]⟩,
  ⟨0x0AAA, ["aGUJARATI LETTER PAbHAdBAbHAdMAcYAcRA"]⟩,
  ⟨0x0AB2, ["aGUJARATI LETTER LAbLA"]⟩,
  ⟨0x0AB5, ["aGUJARATI LETTER VAcSHAcSAcAcHA"]⟩,
  ⟨0x0ABC, ["aGUJARATI SIGN NUKTAfAVAGRAHAnVOWEL SIGN AAcIaIcUaUcVOCALIC RaRkCANDRA E"]⟩,
  ⟨0x0AC7, ["aGUJARATI VOWEL SIGN EbAIcCANDRA O"]⟩,
  ⟨0x0ACB, ["aGUJARATI VOWEL SIGN ObAUnSIGN VIRAMA"]⟩,
  ⟨0x0AD0, ["aGUJARATI OM"]⟩,
  ⟨0x0AE0, ["aGUJARATI LETTER VOCALIC RRcLLrVOWEL SIGN VOCALIC LaL"]⟩,
  ⟨0x0AE6, ["aGUJARATI DIGIT ZEROeONEdTWOcHREEfFOURdIVEeSIXcEVENfEIGHTfNINEkABBREVIATION SIGNrRUPEE SIGN"]⟩,
  ⟨0x0AF9, [
    "aGUJARATI LETTER ZHAkSIGN SUKUNeHADDAgMADDAHgTHREE-DOT NUKTA ABOVEvCIRCLE NUKTA ABOVEsTWO-CIRCLE NUKTA ABOVE"]⟩,
  ⟨0x0B01, ["aORIYA SIGN CANDRABINDUlANUSVARAiVISARGA"]⟩,
  ⟨0x0B05, ["aORIYA LETTER AaAcIaIcUaUcVOCALIC RbL"]⟩,
  ⟨0x0B0F, ["aORIYA LETTER EbAI"]⟩,
  ⟨0x0B13, ["aORIYA LETTER ObAUcKAbHAdGAbHAdNGAdCAbHAdJAbHAdNYAdTTAbHAeDDAbHAeNNAdTAbHAdDAbHAdNA"]⟩,
  ⟨0x0B2A, ["aORIYA LETTER PAbHAdBAbHAdMAcYAcRA"]⟩,
  ⟨0x0B32, ["aORIYA LETTER LAbLA"]⟩,
  ⟨0x0B35, ["aORIYA LETTER VAcSHAcSAcAcHA"]⟩,
  ⟨0x0B3C, ["aORIYA SIGN NUKTAfAVAGRAHAnVOWEL SIGN AAcIaIcUaUcVOCALIC RaR"]⟩,
  ⟨0x0B47, ["aORIYA VOWEL SIGN EbAI"]⟩,
  ⟨0x0B4B, ["aORIYA VOWEL SIGN ObAUnSIGN VIRAMA"]⟩,
  ⟨0x0B55, ["aORIYA SIGN OVERLINEnAI LENGTH MARKnU LENGTH MARK"]⟩,
  ⟨0x0B5C, ["aORIYA LETTER RRAcHA"]⟩,
  ⟨0x0B5F, ["aORIYA LETTER YYAdVOCALIC RRcLLrVOWEL SIGN VOCALIC LaL"]⟩,
  ⟨0x0B66, [
    "aORIYA DIGIT ZEROeONEdTWOcHREEfFOURdIVEeSIXcEVENfEIGHTfNINEkISSHARgLETTER WAjFRACTION ONE QUARTERhHALFiTHREE",
    " QUARTERSoONE SIXTEENTHjEIGHTHkTHREE SIXTEENTHS"]⟩,
  ⟨0x0B82, ["aTAMIL SIGN ANUSVARAiVISARGA"]⟩,
  ⟨0x0B85, ["aTAMIL LETTER AaAcIaIcUaU"]⟩,
  ⟨0x0B8E, ["aTAMIL LETTER EaEcAI"]⟩,
  ⟨0x0B92, ["aTAMIL LETTER OaOcAUcKA"]⟩,
  ⟨0x0B99, ["aTAMIL LETTER NGAdCA"]⟩,
  ⟨0x0B9C, ["aTAMIL LETTER JA"]⟩,
  ⟨0x0B9E, ["aTAMIL LETTER NYAdTTA"]⟩,
  ⟨0x0BA3, ["aTAMIL LETTER NNAdTA"]⟩,
  ⟨0x0BA8, ["aTAMIL LETTER NAbNNAePA"]⟩,
  ⟨0x0BAE, ["aTAMIL LETTER MAcYAcRAbRAdLAbLAbLAeVAcSHAcSAcAcHA"]⟩,
  ⟨0x0BBE, ["aTAMIL VOWEL SIGN AAcIaIcUaU"]⟩,
  ⟨0x0BC6, ["aTAMIL VOWEL SIGN EaEcAI"]⟩,
  ⟨0x0BCA, ["aTAMIL VOWEL SIGN OaOcAUnSIGN VIRAMA"]⟩,
  ⟨0x0BD0, ["aTAMIL OM"]⟩,
  ⟨0x0BD7, ["aTAMIL AU LENGTH MARK"]⟩,
  ⟨0x0BE6, [
    "aTAMIL DIGIT ZEROeONEdTWOcHREEfFOURdIVEeSIXcEVENfEIGHTfNINEkNUMBER TENdONE HUNDREDhTHOUSANDtDAY SIGNiMONTH S",
    "IGNkYEAR SIGNjDEBIT SIGNkCREDIT SIGNlAS ABOVE SIGNnRUPEE SIGNkNUMBER SIGN"]⟩,
  ⟨0x0C00, [
    "aTELUGU SIGN COMBINING CANDRABINDU ABOVEzbANDRABINDUlANUSVARAiVISARGAhCOMBINING ANUSVARA ABOVEzeLETTER AaAcI",
    "aIcUaUcVOCALIC RbL"]⟩,
  ⟨0x0C0E, ["aTELUGU LETTER EaEcAI"]⟩,
  ⟨0x0C12, ["aTELUGU LETTER OaOcAUcKAbHAdGAbHAdNGAdCAbHAdJAbHAdNYAdTTAbHAeDDAbHAeNNAdTAbHAdDAbHAdNA"]⟩,
  ⟨0x0C2A, ["aTELUGU LETTER PAbHAdBAbHAdMAcYAcRAbRAdLAbLAbLAeVAcSHAcSAcAcHA"]⟩,
  ⟨0x0C3C, ["aTELUGU SIGN NUKTAfAVAGRAHAnVOWEL SIGN AAcIaIcUaUcVOCALIC RaR"]⟩,
  ⟨0x0C46, ["aTELUGU VOWEL SIGN EaEcAI"]⟩,
  ⟨0x0C4A, ["aTELUGU VOWEL SIGN OaOcAUnSIGN VIRAMA"]⟩,
  ⟨0x0C55, ["aTELUGU LENGTH MARKlAI LENGTH MARK"]⟩,
  ⟨0x0C58, ["aTELUGU LETTER TSAdDZAdRRRA"]⟩,
  ⟨0x0C5D, ["aTELUGU LETTER NAKAARA POLLU"]⟩,
  ⟨0x0C60, ["aTELUGU LETTER VOCALIC RRcLLrVOWEL SIGN VOCALIC LaL"]⟩,
  ⟨0x0C66, ["aTELUGU DIGIT ZEROeONEdTWOcHREEfFOURdIVEeSIXcEVENfEIGHTfNINE"]⟩,
  ⟨0x0C77, [
    "aTELUGU SIGN SIDDHAMmFRACTION DIGIT ZERO FOR ODD POWERS OF FOURzcONE FOR ODD POWERS OF FOURzbTWO FOR ODD POW",
    "ERS OF FOURzaHREE FOR ODD POWERS OF FOURzdONE FOR EVEN POWERS OF FOURzcTWO FOR EVEN POWERS OF FOURzbHREE FOR",
    " EVEN POWERS OF FOURztSIGN TUUMUrKANNADA SIGN SPACING CANDRABINDUtCANDRABINDUlANUSVARAiVISARGAhSIDDHAMmLETTE",
    "R AaAcIaIcUaUcVOCALIC RbL"]⟩,
  ⟨0x0C8E, ["aKANNADA LETTER EaEcAI"]⟩,
  ⟨0x0C92, ["aKANNADA LETTER OaOcAUcKAbHAdGAbHAdNGAdCAbHAdJAbHAdNYAdTTAbHAeDDAbHAeNNAdTAbHAdDAbHAdNA"]⟩,
  ⟨0x0CAA, ["aKANNADA LETTER PAbHAdBAbHAdMAcYAcRAbRAdLAbLA"]⟩,
  ⟨0x0CB5, ["aKANNADA LETTER VAcSHAcSAcAcHA"]⟩,
  ⟨0x0CBC, ["aKANNADA SIGN NUKTAfAVAGRAHAnVOWEL SIGN AAcIaIcUaUcVOCALIC RaR"]⟩,
  ⟨0x0CC6, ["aKANNADA VOWEL SIGN EaEcAI"]⟩,
  ⟨0x0CCA, ["aKANNADA VOWEL SIGN OaOcAUnSIGN VIRAMA"]⟩,
  ⟨0x0CD5, ["aKANNADA LENGTH MARKlAI LENGTH MARK"]⟩,
  ⟨0x0CDD, ["aKANNADA LETTER NAKAARA POLLUnFA"]⟩,
  ⟨0x0CE0, ["aKANNADA LETTER VOCALIC RRcLLrVOWEL SIGN VOCALIC LaL"]⟩,
  ⟨0x0CE6, ["aKANNADA DIGIT ZEROeONEdTWOcHREEfFOURdIVEeSIXcEVENfEIGHTfNINE"]⟩,
  ⟨0x0CF1, ["aKANNADA SIGN JIHVAMULIYAlUPADHMANIYA"]⟩,
  ⟨0x0D00, [
    "aMALAYALAM SIGN COMBINING ANUSVARA ABOVExANDRABINDUlANUSVARAiVISARGAmLETTER VEDIC ANUSVARAoAaAcIaIcUaUcVOCAL",
    "IC RbL"]⟩,
  ⟨0x0D0E, ["aMALAYALAM LETTER EaEcAI"]⟩,
  ⟨0x0D12, [
    "aMALAYALAM LETTER OaOcAUcKAbHAdGAbHAdNGAdCAbHAdJAbHAdNYAdTTAbHAeDDAbHAeNNAdTAbHAdDAbHAdNAbNNAePAbHAdBAbHAdMA",
    "cYAcRAbRAdLAbLAbLAeVAcSHAcSAcAcHAcTTTAlSIGN VERTICAL BAR VIRAMAtCIRCULAR VIRAMApAVAGRAHAnVOWEL SIGN AAcIaIcU",
    "aUcVOCALIC RaR"]⟩,
  ⟨0x0D46, ["aMALAYALAM VOWEL SIGN EaEcAI"]⟩,
  ⟨0x0D4A, ["aMALAYALAM VOWEL SIGN OaOcAUnSIGN VIRAMAlLETTER DOT REPHpSIGN PARA"]⟩,
  ⟨0x0D54, [
    "aMALAYALAM LETTER CHILLU MbYbLLLrAU LENGTH MARKoFRACTION ONE ONE-HUNDRED-AND-SIXTIETHyFORTIETHmTHREE EIGHTIE",
    "THSqONE TWENTIETHiENTHjTHREE TWENTIETHSqONE FIFTHsLETTER ARCHAIC IIkVOCALIC RRcLLrVOWEL SIGN VOCALIC LaL"]⟩,
  ⟨0x0D66, [
    "aMALAYALAM DIGIT ZEROeONEdTWOcHREEfFOURdIVEeSIXcEVENfEIGHTfNINEkNUMBER TENdONE HUNDREDhTHOUSANDtFRACTION ONE",
    " QUARTERhHALFiTHREE QUARTERSoONE SIXTEENTHjEIGHTHkTHREE SIXTEENTHSzaDATE MARKjLETTER CHILLU NNcNbRRcLaLcK"]⟩,
  ⟨0x0D81, ["aSINHALA SIGN CANDRABINDUlANUSVARAYAkVISARGAYA"]⟩,
  ⟨0x0D85, [
    "aSINHALA LETTER AYANNAfAYANNAgEYANNAfEYANNAiIYANNAfIYANNAhUYANNAfUYANNAhIRUYANNAfUYANNAiLUYANNAfUYANNAjEYANN",
    "AfEYANNAhAIYANNAhOYANNAfOYANNAhAUYANNA"]⟩,
  ⟨0x0D9A, [
    "aSINHALA LETTER ALPAPRAANA KAYANNAsMAHAAPRAANA KAYANNAtALPAPRAANA GAYANNAsMAHAAPRAANA GAYANNAtKANTAJA NAASIK",
    "YAYAsSANYAKA GAYANNApALPAPRAANA CAYANNAsMAHAAPRAANA CAYANNAtALPAPRAANA JAYANNAsMAHAAPRAANA JAYANNAtTAALUJA N",
    "AASIKYAYAkSANYOOGA NAAKSIKYAYAzdSANYAKA JAYANNApALPAPRAANA TTAYANNAtMAHAAPRAANA TTAYANNAuALPAPRAANA DDAYANNA",
    "tMAHAAPRAANA DDAYANNAtUURDHAJA NAYANNArSANYAKA DDAYANNAqALPAPRAANA TAYANNAsMAHAAPRAANA TAYANNAtALPAPRAANA DA",
    "YANNAsMAHAAPRAANA DAYANNAtDANTAJA NAYANNA"]⟩,
  ⟨0x0DB3, [
    "aSINHALA LETTER SANYAKA DAYANNApALPAPRAANA PAYANNAsMAHAAPRAANA PAYANNAtALPAPRAANA BAYANNAsMAHAAPRAANA BAYANN",
    "ArYANNAhAMBA BAYANNAmYAYANNAhRAYANNA"]⟩,
  ⟨0x0DBD, ["aSINHALA LETTER DANTAJA LAYANNA"]⟩,
  ⟨0x0DC0, [
    "aSINHALA LETTER VAYANNAhTAALUJA SAYANNApMUURDHAJA SAYANNArDANTAJA SAYANNApHAYANNAhMUURDHAJA LAYANNArFAYANNA"]⟩,
  ⟨0x0DCA, ["aSINHALA SIGN AL-LAKUNA"]⟩,
  ⟨0x0DCF, [
    "aSINHALA VOWEL SIGN AELA-PILLAkKETTI AEDA-PILLAqDIGA AEDA-PILLApKETTI IS-PILLAoDIGA IS-PILLAnKETTI PAA-PILLA"]⟩,
  ⟨0x0DD6, ["aSINHALA VOWEL SIGN DIGA PAA-PILLA"]⟩,
  ⟨0x0DD8, [
    "aSINHALA VOWEL SIGN GAETTA-PILLAmKOMBUVAhDIGA KOMBUVAmKOMBU DEKAfVA HAA AELA-PILLAkDIGA AELA-PILLApGAYANUKIT",
    "TAxGAYANUKITTA"]⟩,
  ⟨0x0DE6, ["aSINHALA LITH DIGIT ZEROeONEdTWOcHREEfFOURdIVEeSIXcEVENfEIGHTfNINE"]⟩,
  ⟨0x0DF2, ["aSINHALA VOWEL SIGN DIGA GAETTA-PILLAkYANUKITTAzcPUNCTUATION KUNDDALIYA"]⟩,
  ⟨0x0E01, [
    "aTHAI CHARACTER KO KAIfHO KHAIcUATdWAIdONeRAKHANGlNGO NGUhCHO CHANcINGdANGjSO SOfCHO CHOEiYO YINGhDO CHADAiT",
    "O PATAKhHO THANeNANGMONTHOkPHUTHAOlNO NENgDO DEKgTO TAOfHO THUNGdAHANeONGjNO NUfBO BAIMAIjPO PLAfHO PHUNGjFO",
    " FAfPHO PHANiFO FANgPHO SAMPHAOlMO MAfYO YAKgRO RUAfUcLO LINGgUcWO WAENhSO SALAeRUSIeSUAgHO HIPgLO CHULAiO A",
    "NGfHO NOKHUKjPAIYANNOIjSARA AgMAI HAN-AKATmSARA AAbMcIaIcUEaEdUaUhPHINTHU"]⟩,
  ⟨0x0E3F, [
    "aTHAI CURRENCY SYMBOL BAHTtHARACTER SARA EbAEcObAI MAIMUANdALAIqLAKKHANGYAOlMAIYAMOKfTAIKHUg EKcTHOcRIdCHATT",
    "AWAmTHANTHAKHATlNIKHAHITiYAMAKKANiFONGMANrDIGIT ZEROeONEdTWOcHREEfFOURdIVEeSIXcEVENfEIGHTfNINEkCHARACTER ANG",
    "KHANKHUkKHOMUT"]⟩,
  ⟨0x0E81, ["aLAO LETTER KObHO SUNG"]⟩,
  ⟨0x0E84, ["aLAO LETTER KHO TAM"]⟩,
  ⟨0x0E86, ["aLAO LETTER PALI GHAiNGOdCOcPALI CHAiSO TAM"]⟩,
  ⟨0x0E8C, [
    "aLAO LETTER PALI JHAiNYOdPALI NYAdTTAbHAeDDAbHAeNNAiDOcTObHO SUNGeTAMhPALI DHAiNOcBOcPObHO SUNGiFO TAMgPHO T",
    "AMhFO SUNGhPALI BHAiMOcYOcLO LING"]⟩,
  ⟨0x0EA5, ["aLAO LETTER LO LOOT"]⟩,
  ⟨0x0EA7, [
    "aLAO LETTER WOcSANSKRIT SHAcSAlO SUNGhHO SUNGhPALI LLAiObHO TAMnELLIPSISiVOWEL SIGN AbMAI KANhAAbMcIaIcYaYcU",
    "aUnSIGN PALI VIRAMAqVOWEL SIGN MAI KONsSEMIVOWEL SIGN LOcNYO"]⟩,
  ⟨0x0EC0, ["aLAO VOWEL SIGN EaIcObAYbI"]⟩,
  ⟨0x0EC6, ["aLAO KO LA"]⟩,
  ⟨0x0EC8, ["aLAO TONE MAI EKcTHOcIcCATAWApCANCELLATION MARKrNIGGAHITA"]⟩,
  ⟨0x0ED0, ["aLAO DIGIT ZEROeONEdTWOcHREEfFOURdIVEeSIXcEVENfEIGHTfNINE"]⟩,
  ⟨0x0EDC, ["aLAO HO NOcMOfLETTER KHMU GOcNYO"]⟩,
  ⟨0x0F00, [
    "aTIBETAN SYLLABLE OMlMARK GTER YIG MGO TRUNCATED Al-UM RNAM BCAD MAmGTER TSHEG MAzfINITIAL YIG MGO MDUN MAxC",
    "LOSING YIG MGO SGAB MAwARET YIG MGO PHUR SHAD MAzbYIG MGO TSHEG SHAD MAvSBRUL SHADkBSKUR YIG MGOmKA- SHOG YI",
    "G MGOrINTERSYLLABIC TSHEGtDELIMITER TSHEG BSTARvSHADeNYIS SHADjTSHEG SHADkNYIS TSHEG SHADpRIN CHEN SPUNGS SH",
    "ADtGYA GRAM SHADoCARET -DZUD RTAGS ME LONG CANzeGTER TSHEGpLOGOTYPE SIGN CHAD RTAGSkLHAG RTAGSyASTROLOGICAL ",
    "SIGN SGRA GCAN -CHAR RTAGSv-KHYUD PAjSDONG TSHUGSzfSIGN RDEL DKAR GCIGdNYISeSUMjNAG GCIGdNYISjDKAR RDEL NAGx",
    "DIGIT ZEROeONEdTWOcHREEfFOURdIVEeSIXcEVENfEIGHTfNINEeHALF ONEdTWOcHREEfFOURdIVEeSIXcEVENfEIGHTfNINEeZEROpMAR",
    "K BSDUS RTAGSlNGAS BZUNG NYI ZLAsCARET -DZUD RTAGS BZHI MIG CANzfNGAS BZUNG SGOR RTAGSvCHE MGOhTSA -PHRUjGUG",
    " RTAGS GYONcASoANG KHANG GYONcAStSIGN YAR TSHESjMAR TSHESoLETTER KAbHAdGAbHAdNGAdCAbHAdJA"]⟩,
  ⟨0x0F49, [
    "aTIBETAN LETTER NYAdTTAbHAeDDAbHAeNNAdTAbHAdDAbHAdNAcPAbHAdBAbHAdMAcTSAbHAeDZAbHAeWAcZHAcAc-AcYAcRAcLAcSHAcS",
    "AcAcHAcAbKSSAeFIXED-FORM RAnKKAdRRA"]⟩,
  ⟨0x0F71, [
    "aTIBETAN VOWEL SIGN AAcIaIcUaUcVOCALIC RaRcLaLkEaEcOaOnSIGN RJES SU NGA ROnNAM BCADoVOWEL SIGN REVERSED IaIw",
    "SIGN NYI ZLA NAA DAoSNA LDANnMARK HALANTAhPALUTAlSIGN LCI RTAGSjYANG RTAGSkLCE TSA CANlMCHU CANiGRU CAN RGYI",
    "NGSlMED RGYINGSpINVERTED MCHU CANvUBJOINED SIGN LCE TSA CANlMCHU CANiINVERTED MCHU CANwLETTER KAbHAdGAbHAdNG",
    "AdCAbHAdJA"]⟩,
  ⟨0x0F99, [
    "aTIBETAN SUBJOINED LETTER NYAdTTAbHAeDDAbHAeNNAdTAbHAdDAbHAdNAcPAbHAdBAbHAdMAcTSAbHAeDZAbHAeWAcZHAcAc-AcYAcR",
    "AcLAcSHAcSAcAcHAcAbKSSAeFIXED-FORM WAcYAcRA"]⟩,
  ⟨0x0FBE, [
    "aTIBETAN KU RU KHAa BZHI MIG CANwCANTILLATION SIGN HEAVY BEATkLIGHT BEATkCANG TE-UjSBUB -CHALzdSYMBOL DRIL B",
    "UhRDO RJEhPADMA GDANkRDO RJE RGYA GRAMrPHUR PAhNOR BUa NYIS -KHYILlGSUM -KHYILlBZHI -KHYIL"]⟩,
  ⟨0x0FCE, [
    "aTIBETAN SIGN RDEL NAG RDEL DKARjGSUMsMARK BSKA- SHOG GI MGO RGYANxMNYAM YIG GI MGO RGYANwNYIS TSHEGkINITIAL",
    " BRDA RNYING YIG MGO MDUN MAzkCLOSING BRDA RNYING YIG MGO SGAB MAzxRIGHT-FACING SVASTI SIGNyLEFT-FACING SVAS",
    "TI SIGNxRIGHT-FACING SVASTI SIGN WITH DOTSzjLEFT-FACING SVASTI SIGN WITH DOTSziTIBETAN MARK LEADING MCHAN RT",
    "AGStTRAILING MCHAN RTAGS"]⟩]

end DomainPolicy.CharacterName
