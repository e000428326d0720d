import DomainPolicy.Text.CharacterName.Basic

/-!
# Names of characters, from U+3000 to U+FFFF

* The scripts of Japan, of the Yi and of the Vai, and forms of characters that are there for older character sets.
-/

namespace DomainPolicy.CharacterName

/-- The names of the characters from U+3000 on. -/
def asia : List Block := [
  ⟨0x3000, [
    "aIDEOGRAPHIC SPACEfCOMMAfFULL STOPvDITTO MARKkJAPANESE INDUSTRIAL STANDARD SYMBOLzkIDEOGRAPHIC ITERATION MAR",
    "KoCLOSING MARKmNUMBER ZEROxLEFT ANGLE BRACKETsRIGHT ANGLE BRACKETtLEFT DOUBLE ANGLE BRACKETzaRIGHT DOUBLE AN",
    "GLE BRACKETzbLEFT CORNER BRACKETtRIGHT CORNER BRACKETuLEFT WHITE CORNER BRACKETzaRIGHT WHITE CORNER BRACKETz",
    "bLEFT BLACK LENTICULAR BRACKETzeRIGHT BLACK LENTICULAR BRACKETzfPOSTAL MARKlGETA MARKjLEFT TORTOISE SHELL BR",
    "ACKETzcRIGHT TORTOISE SHELL BRACKETzdLEFT WHITE LENTICULAR BRACKETzeRIGHT WHITE LENTICULAR BRACKETzfLEFT WHI",
    "TE TORTOISE SHELL BRACKETziRIGHT WHITE TORTOISE SHELL BRACKETzjLEFT WHITE SQUARE BRACKETzaRIGHT WHITE SQUARE",
    " BRACKETzbWAVE DASHjREVERSED DOUBLE PRIME QUOTATION MARKzlDOUBLE PRIME QUOTATION MARKzcLOW DOUBLE PRIME QUOT",
    "ATION MARKzgPOSTAL MARK FACEqHANGZHOU NUMERAL ONEdTWOcHREEfFOURdIVEeSIXcEVENfEIGHTfNINEvIDEOGRAPHIC LEVEL TO",
    "NE MARKpRISING TONE MARKqDEPARTING TONE MARKtENTERING TONE MARKzfHANGUL SINGLE DOT TONE MARKuDOUBLE DOT TONE",
    " MARKzcWAVY DASHjVERTICAL KANA REPEAT MARKeWITH VOICED SOUND MARKwMARK UPPER HALFpWITH VOICED SOUND MARK UPP",
    "ER HALFziMARK LOWER HALFzlCIRCLED POSTAL MARKtIDEOGRAPHIC TELEGRAPH LINE FEED SEPARATOR SYMBOLzxHANGZHOU NUM",
    "ERAL TENcWENTYfHIRTYxVERTICAL IDEOGRAPHIC ITERATION MARKzkMASU MARKjPART ALTERNATION MARKvIDEOGRAPHIC VARIAT",
    "ION INDICATORtHALF FILL SPACE"]⟩,
  ⟨0x3041, [
    "aHIRAGANA LETTER SMALL AhAbSMALL IhIbSMALL UhUbSMALL EhEbSMALL OhObKAcGAcKIcGIcKUcGUcKEcGEcKOcGOcSAcZAcSIcZI",
    "cSUcZUcSEcZEcSOcZOcTAcDAcTIcDIcSMALL TUiTUcDUcTEcDEcTOcDOcNAbIbUbEbOcHAcBAcPAcHIcBIcPIcHUcBUcPUcHEcBEcPEcHOc",
    "BOcPOcMAbIbUbEbOcSMALL YAiYAcSMALL YUiYUcSMALL YOiYOcRAbIbUbEbOcSMALL WAiWAbIbEbOcNbVUcSMALL KAbE"]⟩,
  ⟨0x3099, [
    "aCOMBINING KATAKANA-HIRAGANA VOICED SOUND MARKrSEMI-VOICED SOUND MARKzzaKATAKANA-HIRAGANA VOICED SOUND MARKr",
    "SEMI-VOICED SOUND MARKzpHIRAGANA ITERATION MARKoVOICED ITERATION MARKvDIGRAPH YORIvKATAKANA-HIRAGANA DOUBLE ",
    "HYPHENx LETTER SMALL AhAbSMALL IhIbSMALL UhUbSMALL EhEbSMALL OhObKAcGAcKIcGIcKUcGUcKEcGEcKOcGOcSAcZAcSIcZIcS",
    "UcZUcSEcZEcSOcZOcTAcDAcTIcDIcSMALL TUiTUcDUcTEcDEcTOcDOcNAbIbUbEbOcHAcBAcPAcHIcBIcPIcHUcBUcPUcHEcBEcPEcHOcBO",
    "cPOcMAbIbUbEbOcSMALL YAiYAcSMALL YUiYUcSMALL YOiYOcRAbIbUbEbOcSMALL WAiWAbIbEbOcNbVUcSMALL KAbEiVAbIbEbOjMID",
    "DLE DOTl-HIRAGANA PROLONGED SOUND MARKzf ITERATION MARKoVOICED ITERATION MARKvDIGRAPH KOTO"]⟩,
  ⟨0x3105, [
    "aBOPOMOFO LETTER BbPbMbFbDbTbNbLbGbKbHbJbQbXbZHcCHcSHcRbZbCbSbAbObEaHcAIcEIcAUcOUcANcENcANGdENGcRcIbUbIUcVbN",
    "GcGNcIHcO WITH DOT ABOVEqNN"]⟩,
  ⟨0x3131, [
    "aHANGUL LETTER KIYEOKgSSANGKIYEOKlKIYEOK-SIOSlNIEUNa-CIEUCfHIEUHlTIKEUTgSSANGTIKEUTlRIEULa-KIYEOKgMIEUMfPIEU",
    "PfSIOSeTHIEUTHhPHIEUPHhHIEUHlMIEUMfPIEUPfSSANGPIEUPkPIEUP-SIOSkSIOSdSANGSIOSjIEUNGfCIEUCfSSANGCIEUCkCHIEUCHh",
    "KHIEUKHhTHIEUTHhPHIEUPHhHIEUHfAaEcYAaEdEOcEbYEOcEcObWAaEdOEcYOcUbWEOcEbIcYUcEUcYIcIiFILLERgLETTER SSANGNIEUN",
    "kNIEUN-TIKEUTgSIOSePANSIOSnRIEUL-KIYEOK-SIOSlTIKEUTgPIEUP-SIOSjANSIOShYEORINHIEUHrMIEUM-PIEUPfSIOSePANSIOSnK",
    "APYEOUNMIEUMnPIEUP-KIYEOKgTIKEUTgSIOS-KIYEOKgTIKEUTlCIEUCfTHIEUTHnKAPYEOUNPIEUPfSSANGPIEUPsSIOS-KIYEOKgNIEUN",
    "fTIKEUTgPIEUPfCIEUCkPANSIOShSSANGIEUNGkYESIEUNGa-SIOSePANSIOSqKAPYEOUNPHIEUPHpSSANGHIEUHkYEORINHIEUHkO-YAaEd",
    "IdU-YEOcEcIeARAEAaE"]⟩,
  ⟨0x3190, [
    "aIDEOGRAPHIC ANNOTATION LINKING MARKmREVERSE MARKmONE MARKiTWO MARKhHREE MARKkFOUR MARKjTOP MARKiMIDDLE MARK",
    "lBOTTOM MARKlFIRST MARKkSECOND MARKlTHIRD MARKkFOURTH MARKlHEAVEN MARKlEARTH MARKkMAN MARKzgBOPOMOFO LETTER ",
    "BUcZIcJIcGUcEEbNNdOObNNdIRcANNdINNdUNNdIMcNGGdAINNdUNNdMcOMbNGdINNNlFINAL LETTER PbTbKbHoLETTER GHcLHcZYjFIN",
    "AL LETTER GoLETTER GWcKWcOEcAHsCJK STROKE TbWGcXGcBXGdSWcHZZbGcPbZWGeSZWGeHZTbZPdPWGdZWbZZeNbHbSbPbSPcDbHZbG",
    "cSZbWZcTbGcPDbZcTNcSZZcWGdHXWGdZZZGfPGcQ"]⟩,
  ⟨0x31F0, [
    "aKATAKANA LETTER SMALL KUcSIbUcTOcNUcHAbIbUbEbOcMUcRAbIbUbEbOyPARENTHESIZED HANGUL KIYEOKgNIEUNfTIKEUTgRIEUL",
    "fMIEUMfPIEUPfSIOSeIEUNGfCIEUCeHIEUCHhKHIEUKHhTHIEUTHhPHIEUPHhHIEUHfKIYEOK AiNIEUN AhTIKEUT AiRIEUL AhMIEUM A",
    "hPIEUP AhSIOS AgIEUNG AhCIEUC AgHIEUCH AjKHIEUKH AjTHIEUTH AjPHIEUPH AjHIEUH AhCIEUC UoKOREAN CHARACTER OJEO",
    "Ne HU"]⟩,
  ⟨0x3220, [
    "aPARENTHESIZED IDEOGRAPH ONEdTWOcHREEfFOURdIVEeSIXcEVENfEIGHTfNINEeTENdMOONeFIREeWATEReOODeMETALfEARTHfSUNcT",
    "OCKfHAVEeSOCIETYhNAMEeSPECIALhFINANCIALjCONGRATULATIONoLABORfREPRESENTjCALLeSTUDYeUPERVISEjENTERPRISEkRESOUR",
    "CEiALLIANCEiFESTIVALiRESTeSELFeREACHzeCIRCLED IDEOGRAPH QUESTIONiKINDERGARTENmSCHOOLgKOTOoNUMBER TEN ON BLAC",
    "K SQUAREsWENTY ON BLACK SQUAREvHIRTY ON BLACK SQUAREwFORTY ON BLACK SQUAREuIFTY ON BLACK SQUAREvSIXTY ON BLA",
    "CK SQUAREuEVENTY ON BLACK SQUARExEIGHTY ON BLACK SQUAREzmPARTNERSHIP SIGNqCIRCLED NUMBER TWENTY ONEdTWOcHREE",
    "fFOURdIVEeSIXcEVENfEIGHTfNINEkHIRTYa ONEdTWOcHREEfFOURdIVEsHANGUL KIYEOKgNIEUNfTIKEUTgRIEULfMIEUMfPIEUPfSIOS",
    "eIEUNGfCIEUCeHIEUCHhKHIEUKHhTHIEUTHhPHIEUPHhHIEUHfKIYEOK AiNIEUN AhTIKEUT AiRIEUL AhMIEUM AhPIEUP AhSIOS AgI",
    "EUNG AhCIEUC AgHIEUCH AjKHIEUKH AjTHIEUTH AjPHIEUPH AjHIEUH AoKOREAN CHARACTER CHAMKOgJUEUIwHANGUL IEUNG UwK",
    "OREAN STANDARD SYMBOLwCIRCLED IDEOGRAPH ONEdTWOcHREEfFOURdIVEeSIXcEVENfEIGHTfNINEeTENdMOONeFIREeWATEReOODeME",
    "TALfEARTHfSUNcTOCKfHAVEeSOCIETYhNAMEeSPECIALhFINANCIALjCONGRATULATIONoLABORfSECRETgMALEeFEMALEgSUITABLEiEXCE",
    "LLENTjPRINTfATTENTIONjITEMeRESTeCOPYcRRECThHIGHeCENTREgLOWcEFTeRIGHTfMEDICINEiRELIGIONiSTUDYeUPERVISEjENTERP",
    "RISEkRESOURCEiALLIANCEiNIGHTpNUMBER THIRTY SIXcEVENfEIGHTfNINElFORTYa ONEdTWOcHREEfFOURdIVEeSIXcEVENfEIGHTfN",
    "INEjIFTYuIDEOGRAPHIC TELEGRAPH SYMBOL FOR JANUARYhFEBRUARYiMARCHfAPRILfMAYdJUNEcLYeAUGUSTgSEPTEMBERjOCTOBERh",
    "NOVEMBERiDECEMBERzqSQUARE HGcERGcVjLIMITED LIABILITY SIGNwCIRCLED KATAKANA AbIbUbEbObKAbIbUbEbOcSAbIbUbEbOcT",
    "AbIbUbEbOcNAbIbUbEbOcHAbIbUbEbOcMAbIbUbEbOcYAbUbOcRAbIbUbEbOcWAbIbEbOtSQUARE ERA NAME REIWAoAPAATOfRUHUAfNPE",
    "AeARUeININGUeTIeUONdESUKUUDOhEKAAfONSUdOMUeKAIRIdRATTOeORIIhGARONdNMAeIGAcNIIfKYURIIgGIRUDAAhKIROaGURAMUgMEE",
    "TORUhWATTOjGURAMUaTONjKURUZEIROgOONEgEESUeORUNAeOPOfSAIKURUfNTIIMUhIRINGUgENTIbOfDAASUeESIdORUeTONdNANOdOTTO",
    "fHAITUfPAASENTOfTUfBAARERUhPIASUTORUhKURUdOeBIRUeHUARADDOgIITOgBUSSYERUiHURANeEKUTAARUjPESOcNIHIgHERUTUgPENS",
    "UdEZIfBEETAfPOINTOgBORUTOgHONdPONDOfHOORUcNeMAIKUROeRUdHHAdRUKUeNSYONgIKURONfRIaBAARUiEGAaTONfETORUhYAADOcRU",
    "eUANeRITTORUfRAdUPIIdUBURUgEMUcNTOGENiWATTOmIDEOGRAPHIC TELEGRAPH SYMBOL FOR HOUR ZEROeONEdTWOcHREEfFOURdIVE",
    "eSIXcEVENfEIGHTfNINEeTENdELEVENgTWELVEfHIRTEENiFOURTEENhIFTEENhSIXTEENgEVENTEENjEIGHTEENiNINETEENiTWENTYa-ON",
    "EdTWOcHREEfFOURzySQUARE HPAdDAcAUcBARdOVcPCcDMa SQUAREDhCUBEDiIUcERA NAME HEISEIgSYOUWAgTAISYOUhMEIZIoCORPOR",
    "ATIONlPA AMPShNAcMU AdAcKAbBcMBcGBcCALdKCALePFcNFcMU FbGdGcKGcHZcKHZdMHZdGHZdTHZdMU LdLcDLcKLcFMcNMcMU MdMcC",
    "McKMcMM SQUAREDkCM SQUAREDkM SQUAREDjKM SQUAREDkMM CUBEDiCM CUBEDiM CUBEDhKM CUBEDiM OVER Sa SQUAREDqPAcKPAd",
    "MPAdGPAdRADa OVER Sa SQUAREDsPScNScMU SdScPVcNVcMU VdVcKVcMV MEGAhPWcNWcMU WdWcKWcMW MEGAhK OHMfM OHMfAMcBQc",
    "CCbDb OVER KGiOcDBcGYcHAbPcINcKKbM CAPITALjTcLMbNbOGcXcMB SMALLhILcOLdPHbMbPMcRcSRbVcWBcV OVER MiA OVER MpID",
    "EOGRAPHIC TELEGRAPH SYMBOL FOR DAY ONEdTWOcHREEfFOURdIVEeSIXcEVENfEIGHTfNINEeTENdELEVENgTWELVEfHIRTEENiFOURT",
    "EENhIFTEENhSIXTEENgEVENTEENjEIGHTEENiNINETEENiTWENTYa-ONEdTWOcHREEfFOURdIVEeSIXcEVENfEIGHTfNINEkHIRTYa-ONEzw",
    "SQUARE GAL"]⟩,
  ⟨0x4DC0, [
    "aHEXAGRAM FOR THE CREATIVE HEAVENpRECEPTIVE EARTHtDIFFICULTY AT THE BEGINNINGzcYOUTHFUL FOLLYoWAITINGhCONFLI",
    "CTiTHE ARMYiHOLDING TOGETHERqSMALL TAMINGmTREADINGiPEACEfSTANDSTILLkFELLOWSHIPkGREAT POSSESSIONqMODESTYhENTH",
    "USIASMkFOLLOWINGjWORK ON THE DECAYEDtAPPROACHiCONTEMPLATIONnBITING THROUGHoGRACEfSPLITTING APARTpRETURNgINNO",
    "CENCEjGREAT TAMINGmMOUTH CORNERSnGREAT PREPONDERANCEtTHE ABYSMAL WATERnCLINGING FIRErINFLUENCEjDURATIONiRETR",
    "EAThGREAT POWERlPROGRESSiDARKENING OF THE LIGHTwTHE FAMILYkOPPOSITIONjBSTRUCTIONlDELIVERANCEjCREASEiINCREASE",
    "iBREAKTHROUGHmCOMING TO MEEToGATHERING TOGETHERsPUSHING UPWARDoOPPRESSIONkTHE WELLiREVOLUTIONkTHE CAULDRONiA",
    "ROUSING THUNDERqKEEPING STILL MOUNTAINzbDEVELOPMENTlTHE MARRYING MAIDENtABUNDANCEjTHE WANDERERiGENTLE WINDlJ",
    "OYOUS LAKEpDISPERSIONkLIMITATIONkINNER TRUTHlSMALL PREPONDERANCEtAFTER COMPLETIONqBEFORE COMPLETION"]⟩,
  ⟨0xA000, [
    "aYI SYLLABLE ITbXcIaPbETbXcEaPdATbXcAaPcUOXcOaPdOTbXcOaPcEXcEbWUcBITbXcIaPbETbXcEaPdATbXcAaPcUOXcOaPdOTbXcOa",
    "PcEXcEaPcUTbXcUaPbRXcRcYTbXcYaPbRXcRdPITbXcIaPbEXcEaPdATbXcAaPcUOXcOaPdOTbXcOaPcUTbXcUaPbRXcRcYTbXcYaPbRXcRd",
    "BBITbXcIaPbETbXcEaPdATbXcAaPcUOXcOaPdOTbXcOaPcEXcEaPcUTbXcUaPbRXcRcYTbXcYaPeNBITbXcIaPbEXcEaPdATbXcAaPcOTbXc",
    "OaPcUTbXcUaPbRXcRcYTbXcYaPbRXcReHMITbXcIaPbEXcEaPdATbXcAaPcUOXcOaPdOTbXcOaPcUTbXcUaPbRXcRcYXcYaPbRXcReMITbXc",
    "IaPbEXcEaPdATbXcAaPcUOTbXcOaPdOTbXcOaPcEXcEbUTbXcUaPbRXcRcYTbXcYaPdFITbXcIaPcATbXcAaPcOXcOaPcUTbXcUaPbRXcRcY",
    "TbXcYaPdVITbXcIaPbETbXcEaPdATbXcAaPcOTbXcOaPcEXbPcUTbXcUaPbRXcRcYTbXcYaPbRXcRdDITbXcIaPbEXcEaPdATbXcAaPcUOXc",
    "OcOTbXcOaPcEXcEaPcUTbXcUaPbRXcRdTITbXcIaPbEXcEaPdATbXcAaPcUOTbXcOaPdOTbXcOaPcEXcEaPcUTbXcUaPbRXcRdDDITbXcIaP",
    "bEXcEaPdATbXcAaPcUOXcOaPdOTbXcOaPcEXcEaPcUTbXcUaPbRXcReNDITbXcIaPbEXcEcATbXcAaPcOTbXcOaPcEXcEaPcUTbXcUaPbRXc",
    "ReHNITbXcIaPbETbXcEaPdATbXcAaPcUOXcOcOTbXbPcEXcEaPcUTeNITbXcIaPbEXcEaPdAXcAaPcUOXcOaPdOTbXcOaPcEXcEaPcUTbXcU",
    "aPbRXcRdHLITbXcIaPbEXcEaPdATbXcAaPcUOXcOaPdOXcOaPcEXcEaPcUTbXcUaPbRXcRcYTbXcYaPbRXcReLITbXcIaPbETbXcEaPdATbX",
    "cAaPcUOTbXcOaPdOTbXcOaPcEXcEaPcUTbXcUaPbRXcRcYTbXcYaPbRXcRdGITbXcIaPbETbXcEaPdATbXcAaPcUOTbXcOaPdOTbXcOaPcET",
    "bXcEaPcUTbXcUaPbRXcRdKITbXcIaPbEXcEaPdATbXcAaPcUOXcOaPdOTbXcOaPcETbXcEaPcUTbXcUaPbRXcRdGGITbXcIaEXcEaPdATbXc",
    "AaPcUOTbXcOaPdOTbXcOaPcETbXcEaPcUTbXcUaPbRXcReMGIEXcEcATbXcAaPcUOXcOaPdOTbXcOaPcEXcEaPcUTbXcUaPbRXcReHXITbXc",
    "IaPbETbXcEaPdATbXcAaPcUOTbXcOaPdOTbXcOaPcEXcEaPeNGIEXcEaPdATbXcAaPcUOTbXcOcOTbXcOaPcEXcEaPeHITbEXcEcATbXcAaP",
    "cUOTbXcOaPdOTbXcOaPcEXcEaPdWATbXcAaPcUOXcOaPdOXcOaPcEXcEaPdZITbXcIaPbEXcEaPdATbXcAaPcUOXcOaPdOTbXcOaPcEXcEaP",
    "cUTbXcUaPbRXcRcYTbXcYaPbRXcRdCITbXcIaPbETbXcEaPdATbXcAaPcUOXcOaPdOTbXcOaPcEXcEaPcUTbXcUaPbRXcRcYTbXcYaPbRXcR",
    "dZZITbXcIaPbETbXcEaPdATbXcAaPcOXcOaPcEXcEaPcUXcUaPbRXcRcYTbXcYaPbRXcReNZITbXcIaPbEXcEaPdATbXcAaPcUOXcOcOXbPc",
    "EXcEbUXcUaPbRXcRcYTbXcYaPbRXcReSITbXcIaPbEXcEaPdATbXcAaPcUOXcOaPdOTbXcOaPcEXcEaPcUTbXcUaPbRXcRcYTbXcYaPbRXcR",
    "cSITbXcIaPbEXcEaPdATbXcAaPcOTbXcOaPcEXcEaPcUTbXcUaPcYTbXcYaPbRXcReZHATbXcAaPcUOXcOaPdOTbXcOaPcETbXcEaPcUTbXc",
    "UaPbRXcRcYTbXcYaPbRXcReCHATbXcAaPcUOTbXcOaPdOTbXcOaPcETbXcEaPcUXcUaPbRXcRcYTbXcYaPbRXcReRRAXcAbUOXcOcOTbXcOa",
    "PcETbXcEaPcUTbXcUaPbRXcRcYTbXcYaPbRXcReNRATbXcAaPcOXcOaPcETbXcEaPcUTbXcUaPbRXcRcYTbXcYaPbRXcReSHATbXcAaPcUOX",
    "cOaPdOTbXcOaPcETbXcEaPcUTbXcUaPbRXcRcYTbXcYaPbRXcReRATbXcAaPcUOXcOaPdOTbXcOaPcEXcEaPcUTbXcUaPbRXcRcYTbXcYaPb",
    "RXcRdJITbXcIaPbETbXcEaPdUOTbXcOaPdOTbXcOaPcUTbXcUaPbRXcRcYTbXcYaPbRXcRdQITbXcIaPbETbXcEaPdUOTbXcOaPdOTbXcOaP",
    "cUTbXcUaPbRXcRcYTbXcYaPbRXcRdJJITbXcIaPbETbXcEaPdUOXcOaPdOTbXcOaPcUTbXcUaPbRXcRcYTbXcYaPeNJITbXcIaPbETbXcEaP",
    "dUOXcOcOTbXcOaPcUXcUaPbRXcRcYTbXcYaPbRXcRdYITbXcIaPbETbXcEaPdUOXcOaPdOTbXcOaPcUTbXcUaPeXITbXcIaPbETbXcEaPdUO",
    "XcOcOTbXcOaPcYTbXcYaPbRXcRdYITbXcIaPbETbXcEaPdUOTbXcOaPdOTbXcOaPcUTbXcUaPbRXcRcYTbXcYaPbRXcR"]⟩,
  ⟨0xA490, [
    "aYI RADICAL QOTdLIcKITdNYIPeCYPdSSIdGGOPdEPdMIcHXITeLYRdBBUTeMOPdYOcPUTdHXUOeTATdGAcZUPdCYTdDDUReBURdGGUOeNY",
    "OPeTUcOPcJJUTeZOTdPYTdHMOdYITdVURdSHYdVEPdZAcJOcNZUPeJJYdGOTdJJIEeWOcDUcSHUReLIEdCYbUOPdIPdHXOPeSHATeZURdSHO",
    "PeCHEdZZIETfNBIEeKE"]⟩,
  ⟨0xA4D0, [
    "aLISU LETTER BAcPAbHAdDAcTAbHAdGAcKAbHAdJAcCAbHAdDZAdTSAbHAeMAcNAcLAcSAcZHAcAcNGAdHAcXAcHHAdFAcWAcSHAdYAcGHA",
    "dAaEcEaUcIbObUaEbHcOEcTONE MYA TIgNA POfMYA CYAdBOcNAcJEUtPUNCTUATION COMMAfFULL STOPzbVAI SYLLABLE EEaNdHEE",
    "dWEEaNePEEdBHEEdEEdMBEEeKPEEeMGBEEfGBEEeFEEdVEEdTEEcHEEeDHEEcHEEfLEEdREEdDEEdNDEEeSEEcHEEeZEEcHEEeCEEdJEEdNJ",
    "EEeYEEdKEEdNGGEEfGEEdMEEdNEEcYEEeIaNcHIaNdWIaNdPIcBHIcIcMBIdKPIdMGBIeGBIdFIcVIcTIbHIdDHIbHIeLIcRIcDIcNDIdSIb",
    "HIdZIbHIdCIcJIcNJIdYIcKIcNGGIeGIcMIcNIbYIdAaNcNGANeHAaNdWAaNdPAcBHAcAcMBAdKPAaNeMGBAeGBAdFAcVAcTAbHAdDHAbHAe",
    "LAcRAcDAcNDAdSAbHAdZAbHAdCAcJAcNJAdYAcKAaNdNGGAeGAcMAcNAbYAdOOaNdHOOdWOOaNePOOdBHOOdOOdMBOOeKPOOeMGBOOfGBOOe",
    "FOOdVOOdTOOcHOOeDHOOcHOOfLOOdROOdDOOdNDOOeSOOcHOOeZOOcHOOeCOOdJOOdNJOOeYOOdKOOdNGGOOfGOOdMOOdNOOcYOOeUaNcHUa",
    "NdWUaNdPUcBHUcUcMBUdKPUdMGBUeGBUdFUcVUcTUbHUdDHUbHUeLUcRUcDUcNDUdSUbHUdZUbHUdCUcJUcNJUdYUcKUcNGGUeGUcMUcNUbY",
    "UdOaNcNGONeHOaNdWOaNdPOcBHOcOcMBOdKPOdMGBOeGBOaNeFOcVOcTObHOdDHObHOeLOcROcDOcNDOdSObHOdZObHOdCOcJOcNJOdYOcKO",
    "cNGGOeGOcMOcNObYOdEaNcNGENeHEaNdWEaNdPEcBHEcEcMBEdKPEaNeMGBEeGBEaNeFEcVEcTEbHEdDHEbHEeLEcREcDEcNDEdSEbHEdZEb",
    "HEdCEcJEcNJEdYEcKEcNGGEaNfGEaNdMEcNEbYEcGcLENGTHENERtCOMMAfFULL STOPjQUESTION MARKnSYLLABLE NDOLE FAcKAcSOOq",
    "MBOL FEENGfKEENGfTINGeNIIdBANGeFAAdTAAdDANGdOONGfKUNGeTONGeDO-OeJONGlDIGIT ZEROeONEdTWOcHREEfFOURdIVEeSIXcEV",
    "ENfEIGHTfNINEkSYLLABLE NDOLE MAcDO"]⟩,
  ⟨0xA640, [
    "aCYRILLIC CAPITAL LETTER ZEMLYAvSMALL LETTER ZEMLYAtCAPITAL LETTER DZELOuSMALL LETTER DZELOsCAPITAL LETTER R",
    "EVERSED DZEzcSMALL LETTER REVERSED DZEzaCAPITAL LETTER IOTAtSMALL LETTER IOTArCAPITAL LETTER DJERVuSMALL LET",
    "TER DJERVsCAPITAL LETTER MONOGRAPH UKzcSMALL LETTER MONOGRAPH UKzaCAPITAL LETTER BROAD OMEGAzbSMALL LETTER B",
    "ROAD OMEGAyCAPITAL LETTER NEUTRAL YERzbSMALL LETTER NEUTRAL YERyCAPITAL LETTER YERU WITH BACK YERziSMALL LET",
    "TER YERU WITH BACK YERzgCAPITAL LETTER IOTIFIED YATzcSMALL LETTER IOTIFIED YATzaCAPITAL LETTER REVERSED YUzb",
    "SMALL LETTER REVERSED YUyCAPITAL LETTER IOTIFIED AzaSMALL LETTER IOTIFIED AxCAPITAL LETTER CLOSED LITTLE YUS",
    "zhSMALL LETTER CLOSED LITTLE YUSzfCAPITAL LETTER BLENDED YUSzbSMALL LETTER BLENDED YUSyCAPITAL LETTER IOTIFI",
    "ED CLOSED LITTLE YUSzqSMALL LETTER IOTIFIED CLOSED LITTLE YUSzoCAPITAL LETTER YNrSMALL LETTER YNpCAPITAL LET",
    "TER REVERSED TSEzcSMALL LETTER REVERSED TSEzaCAPITAL LETTER SOFT DEwSMALL LETTER SOFT DEuCAPITAL LETTER SOFT",
    " ELwSMALL LETTER SOFT ELuCAPITAL LETTER SOFT EMwSMALL LETTER SOFT EMuCAPITAL LETTER MONOCULAR OzbSMALL LETTE",
    "R MONOCULAR OyCAPITAL LETTER BINOCULAR OzbSMALL LETTER BINOCULAR OyCAPITAL LETTER DOUBLE MONOCULAR OziSMALL ",
    "LETTER DOUBLE MONOCULAR OzgLETTER MULTIOCULAR OzdOMBINING CYRILLIC VZMETfTEN MILLIONS SIGNrHUNDRED MILLIONS ",
    "SIGNvTHOUSAND MILLIONS SIGNzqSLAVONIC ASTERISKrCOMBINING CYRILLIC LETTER UKRAINIAN IEmIbYIcUbHARD SIGNjYERUe",
    "SOFT SIGNjOMEGAmKAVYKAgPAYEROKzaYRILLIC KAVYKAgPAYEROKhCAPITAL LETTER DWEsSMALL LETTER DWEqCAPITAL LETTER DZ",
    "WEtSMALL LETTER DZWErCAPITAL LETTER ZHWEtSMALL LETTER ZHWErCAPITAL LETTER CCHEtSMALL LETTER CCHErCAPITAL LET",
    "TER DZZEtSMALL LETTER DZZErCAPITAL LETTER TE WITH MIDDLE HOOKzjSMALL LETTER TE WITH MIDDLE HOOKzhCAPITAL LET",
    "TER TWEsSMALL LETTER TWEqCAPITAL LETTER TSWEtSMALL LETTER TSWErCAPITAL LETTER TSSEtSMALL LETTER TSSErCAPITAL",
    " LETTER TCHEtSMALL LETTER TCHErCAPITAL LETTER HWEsSMALL LETTER HWEqCAPITAL LETTER SHWEtSMALL LETTER SHWErCAP",
    "ITAL LETTER DOUBLE OxSMALL LETTER DOUBLE OvCAPITAL LETTER CROSSED OySMALL LETTER CROSSED OzgMODIFIER LETTER ",
    "CYRILLIC HARD SIGNjSOFT SIGNzjCOMBINING CYRILLIC LETTER EFcIOTIFIED EzlBAMUM LETTER AbKAcUbKUcEEcREEdTAEdObN",
    "YIdIbLAcPAcRIIbEEeLEEEEfMEEEEfTAAdNDAAdJAEMfMbSUUdMUcSHIIdIbHEUXeEUXeKYEEdETdNUAEdUbJUAEfYOQdSHUdYUQcAcNSHAe",
    "KEUXePEUXeNJEEdTEEePUEdWUEdPEEdFEEdRUcLUcMIcNIcREUXdAEdKENdNGKWAENfGAcAdSHOdPUAEeFUbOMdWAcNAcLIcPIcLOQdKOcMB",
    "ENeRENdMENcAcTIcKIcMObBAAeTETdKPAdTENdNTUUeSAMBAfFAAMAEgKOVUUdGHOMnCOMBINING MARK KOQNDONhTUKWENTISyNJAEMLIh",
    "FULL STOPjCOLONdMMAfSEMICOLONjQUESTION MARK"]⟩,
  ⟨0xA700, [
    "aMODIFIER LETTER CHINESE TONE YIN PINGhANG PINGiIN SHANGiANG SHANGjIN QUfANG QUgIN RUfANG RUuEXTRA-HIGH DOTT",
    "ED TONE BARzbHIGH DOTTED TONE BARuMID DOTTED TONE BARtLOW DOTTED TONE BARtEXTRA-LOW DOTTED TONE BARtHIGH DOT",
    "TED LEFT-STEM TONE BARzlHIGH DOTTED LEFT-STEM TONE BARzfMID DOTTED LEFT-STEM TONE BARzeLOW DOTTED LEFT-STEM ",
    "TONE BARzeEXTRA-LOW DOTTED LEFT-STEM TONE BARzeHIGH LEFT-STEM TONE BARzeHIGH LEFT-STEM TONE BARxMID LEFT-STE",
    "M TONE BARwLOW LEFT-STEM TONE BARwEXTRA-LOW LEFT-STEM TONE BARzdDOT VERTICAL BARmSLASHfHORIZONTAL BARsLOWER ",
    "RIGHT CORNER ANGLEyRAISED UP ARROWiDOWN ARROWkEXCLAMATION MARKqINVERTED EXCLAMATION MARKzhLOW INVERTED EXCLA",
    "MATION MARKzeSTRESS AND HIGH TONEjLOW TONEzkLATIN CAPITAL LETTER EGYPTOLOGICAL ALEFziSMALL LETTER EGYPTOLOGI",
    "CAL ALEFzgCAPITAL LETTER EGYPTOLOGICAL AINzhSMALL LETTER EGYPTOLOGICAL AINzfCAPITAL LETTER HENGtSMALL LETTER",
    " HENGrCAPITAL LETTER TZrSMALL LETTER TZpCAPITAL LETTER TRESILLOxSMALL LETTER TRESILLOvCAPITAL LETTER CUATRIL",
    "LOySMALL LETTER CUATRILLOwCAPITAL LETTER CUATRILLO WITH COMMAzkSMALL LETTER CUATRILLO WITH COMMAziLETTER SMA",
    "LL CAPITAL FbSwCAPITAL LETTER AArSMALL LETTER AApCAPITAL LETTER AOrSMALL LETTER AOpCAPITAL LETTER AUrSMALL L",
    "ETTER AUpCAPITAL LETTER AVrSMALL LETTER AVpCAPITAL LETTER AV WITH HORIZONTAL BARzmSMALL LETTER AV WITH HORIZ",
    "ONTAL BARzkCAPITAL LETTER AYrSMALL LETTER AYpCAPITAL LETTER REVERSED C WITH DOTzjSMALL LETTER REVERSED C WIT",
    "H DOTzhCAPITAL LETTER K WITH STROKEzdSMALL LETTER K WITH STROKEzbCAPITAL LETTER K WITH DIAGONAL STROKEzmSMAL",
    "L LETTER K WITH DIAGONAL STROKEzkCAPITAL LETTER K WITH STROKE AND DIAGONAL STROKEzxSMALL LETTER K WITH STROK",
    "E AND DIAGONAL STROKEzvCAPITAL LETTER BROKEN LxSMALL LETTER BROKEN LvCAPITAL LETTER L WITH HIGH STROKEziSMAL",
    "L LETTER L WITH HIGH STROKEzgCAPITAL LETTER O WITH LONG STROKE OVERLAYzqSMALL LETTER O WITH LONG STROKE OVER",
    "LAYzoCAPITAL LETTER O WITH LOOPzbSMALL LETTER O WITH LOOPyCAPITAL LETTER OOrSMALL LETTER OOpCAPITAL LETTER P",
    " WITH STROKE THROUGH DESCENDERzvSMALL LETTER P WITH STROKE THROUGH DESCENDERztCAPITAL LETTER P WITH FLOURISH",
    "zfSMALL LETTER P WITH FLOURISHzdCAPITAL LETTER P WITH SQUIRREL TAILzkSMALL LETTER P WITH SQUIRREL TAILziCAPI",
    "TAL LETTER Q WITH STROKE THROUGH DESCENDERzvSMALL LETTER Q WITH STROKE THROUGH DESCENDERztCAPITAL LETTER Q W",
    "ITH DIAGONAL STROKEzmSMALL LETTER Q WITH DIAGONAL STROKEzkCAPITAL LETTER R ROTUNDAySMALL LETTER R ROTUNDAwCA",
    "PITAL LETTER RUM ROTUNDAzbSMALL LETTER RUM ROTUNDAyCAPITAL LETTER V WITH DIAGONAL STROKEzmSMALL LETTER V WIT",
    "H DIAGONAL STROKEzkCAPITAL LETTER VYrSMALL LETTER VYpCAPITAL LETTER VISIGOTHIC ZzcSMALL LETTER VISIGOTHIC Zz",
    "aCAPITAL LETTER THORN WITH STROKEzhSMALL LETTER THORN WITH STROKEzfCAPITAL LETTER THORN WITH STROKE THROUGH ",
    "DESCENDERzzaSMALL LETTER THORN WITH STROKE THROUGH DESCENDERzxCAPITAL LETTER VENDtSMALL LETTER VENDrCAPITAL ",
    "LETTER ETrSMALL LETTER ETpCAPITAL LETTER ISrSMALL LETTER ISpCAPITAL LETTER CONsSMALL LETTER CONwMODIFIER LET",
    "TER USsLATIN SMALL LETTER DUMdLUMdMUMdNUMdRUMqLETTER SMALL CAPITAL RUMySMALL LETTER TUMdUMpCAPITAL LETTER IN",
    "SULAR DySMALL LETTER INSULAR DwCAPITAL LETTER INSULAR FySMALL LETTER INSULAR FwCAPITAL LETTER INSULAR GjTURN",
    "ED INSULAR GzgSMALL LETTER TURNED INSULAR GzeCAPITAL LETTER TURNED LxSMALL LETTER TURNED LvCAPITAL LETTER IN",
    "SULAR RySMALL LETTER INSULAR RwCAPITAL LETTER INSULAR SySMALL LETTER INSULAR SwCAPITAL LETTER INSULAR TySMAL",
    "L LETTER INSULAR TzdMODIFIER LETTER LOW CIRCUMFLEX ACCENTvCOLONfSHORT EQUALS SIGNziLATIN CAPITAL LETTER SALT",
    "ILLOxSMALL LETTER SALTILLOvCAPITAL LETTER TURNED HxSMALL LETTER L WITH RETROFLEX HOOK AND BELTzsLETTER SINOL",
    "OGICAL DOTwCAPITAL LETTER N WITH DESCENDERzgSMALL LETTER N WITH DESCENDERzeCAPITAL LETTER C WITH BARzaSMALL ",
    "LETTER C WITH BARdPALATAL HOOKtH WITH PALATAL HOOKzhCAPITAL LETTER B WITH FLOURISHzfSMALL LETTER B WITH FLOU",
    "RISHzdCAPITAL LETTER F WITH STROKEzdSMALL LETTER F WITH STROKEzbCAPITAL LETTER VOLAPUK AEzaSMALL LETTER VOLA",
    "PUK AExCAPITAL LETTER VOLAPUK OEzaSMALL LETTER VOLAPUK OExCAPITAL LETTER VOLAPUK UEzaSMALL LETTER VOLAPUK UE",
    "xCAPITAL LETTER G WITH OBLIQUE STROKEzlSMALL LETTER G WITH OBLIQUE STROKEzjCAPITAL LETTER K WITH OBLIQUE STR",
    "OKEzlSMALL LETTER K WITH OBLIQUE STROKEzjCAPITAL LETTER N WITH OBLIQUE STROKEzlSMALL LETTER N WITH OBLIQUE S",
    "TROKEzjCAPITAL LETTER R WITH OBLIQUE STROKEzlSMALL LETTER R WITH OBLIQUE STROKEzjCAPITAL LETTER S WITH OBLIQ",
    "UE STROKEzlSMALL LETTER S WITH OBLIQUE STROKEzjCAPITAL LETTER H WITH HOOKlREVERSED OPEN EpSCRIPT GiL WITH BE",
    "LTlSMALL CAPITAL IzfLETTER SMALL CAPITAL QwCAPITAL LETTER TURNED KbTiJ WITH CROSSED-TAILtCHIdBETAtSMALL LETT",
    "ER BETArCAPITAL LETTER OMEGAuSMALL LETTER OMEGAsCAPITAL LETTER U WITH STROKEzdSMALL LETTER U WITH STROKEzbCA",
    "PITAL LETTER GLOTTAL AySMALL LETTER GLOTTAL AwCAPITAL LETTER GLOTTAL IySMALL LETTER GLOTTAL IwCAPITAL LETTER",
    " GLOTTAL UySMALL LETTER GLOTTAL UwCAPITAL LETTER OLD POLISH OzcSMALL LETTER OLD POLISH OzaCAPITAL LETTER ANG",
    "LICANA WzbSMALL LETTER ANGLICANA WyCAPITAL LETTER C WITH PALATAL HOOKtS WITH HOOKlZ WITH PALATAL HOOKtD WITH",
    " SHORT STROKE OVERLAYzrSMALL LETTER D WITH SHORT STROKE OVERLAYzpCAPITAL LETTER S WITH SHORT STROKE OVERLAYz",
    "rSMALL LETTER S WITH SHORT STROKE OVERLAY"]⟩,
  ⟨0xA7D0, ["aLATIN CAPITAL LETTER CLOSED INSULAR GzgSMALL LETTER CLOSED INSULAR G"]⟩,
  ⟨0xA7D3, ["aLATIN SMALL LETTER DOUBLE THORN"]⟩,
  ⟨0xA7D5, [
    "aLATIN SMALL LETTER DOUBLE WYNNyCAPITAL LETTER MIDDLE SCOTS SzeSMALL LETTER MIDDLE SCOTS SzcCAPITAL LETTER S",
    "IGMOID SySMALL LETTER SIGMOID S"]⟩,
  ⟨0xA7F2, [
    "aMODIFIER LETTER CAPITAL CbFbQzaLATIN CAPITAL LETTER REVERSED HALF HzfSMALL LETTER REVERSED HALF HzdEPIGRAPH",
    "IC LETTER SIDEWAYS IzjMODIFIER LETTER CAPITAL H WITH STROKEvSMALL LIGATURE OEziLATIN LETTER SMALL CAPITAL TU",
    "RNED MzeEPIGRAPHIC LETTER REVERSED FbPkINVERTED Mj LONGAhARCHAIC MziSYLOTI NAGRI LETTER AbIiSIGN DVISVARAnLE",
    "TTER UbEbOiSIGN HASANTAmLETTER KObHOdGObHOkSIGN ANUSVARAnLETTER CObHOdJObHOdTTObHOeDDObHOeTObHOdDObHOdNOcPOb",
    "HOdBObHOdMOcROcLOcRROdSOcHOjVOWEL SIGN AbIbUbEbOOnPOETRY MARK-1b2b3b4nSIGN ALTERNATE HASANTA"]⟩,
  ⟨0xA830, [
    "aNORTH INDIC FRACTION ONE QUARTERhHALFiTHREE QUARTERSoONE SIXTEENTHjEIGHTHkTHREE SIXTEENTHSzaQUARTER MARKmPL",
    "ACEHOLDER MARKqRUPEE MARKkQUANTITY MARK"]⟩,
  ⟨0xA840, [
    "aPHAGS-PA LETTER KAbHAdGAcNGAdCAbHAdJAcNYAdTAbHAdDAcNAcPAbHAdBAcMAcTSAbHAeDZAdWAcZHAcAcSMALL AhYAcRAcLAcSHAc",
    "AcHAcAbIbUbEbObQAcXAcFAcGGAdEEjSUBJOINED LETTER WAcYAtLETTER TTAbHAeDDAdNNAdALTERNATE YAmVOICELESS SHAiD HAj",
    "ASPIRATED FAtSUBJOINED LETTER RArPERFIXED LETTER RAuLETTER CANDRABINDUsSINGLE HEAD MARKqDOUBLE HEAD MARKqMAR",
    "K SHADeDOUBLE SHAD"]⟩,
  ⟨0xA880, [
    "aSAURASHTRA SIGN ANUSVARAiVISARGAmLETTER AaAcIaIcUaUcVOCALIC RaRcLaLkEaEcAIcOaOcAUcKAbHAdGAbHAdNGAdCAbHAdJAb",
    "HAdNYAdTTAbHAeDDAbHAeNNAdTAbHAdDAbHAdNAcPAbHAdBAbHAdMAcYAcRAcLAcVAcSHAcSAcAcHAcLLAkCONSONANT SIGN HAARUuVOWE",
    "L SIGN AAcIaIcUaUcVOCALIC RaRcLaLkEaEcAIcOaOcAUnSIGN VIRAMAgCANDRABINDU"]⟩,
  ⟨0xA8CE, ["aSAURASHTRA DANDAeOUBLE DANDAlIGIT ZEROeONEdTWOcHREEfFOURdIVEeSIXcEVENfEIGHTfNINE"]⟩,
  ⟨0xA8E0, [
    "aCOMBINING DEVANAGARI DIGIT ZEROeONEdTWOcHREEfFOURdIVEeSIXcEVENfEIGHTfNINEkLETTER AbUbKAcNAcPAcRAcVIjSIGN AV",
    "AGRAHAzjDEVANAGARI SIGN SPACING CANDRABINDUtCANDRABINDU VIRAMAsDOUBLE CANDRABINDU VIRAMAzaCANDRABINDU TWOcHR",
    "EEfAVAGRAHAuPUSHPIKAnGAP FILLERkCARETfHEADSTROKEkSIGN SIDDHAMmJAIN OMhLETTER AYjVOWEL SIGN AYyKAYAH LI DIGIT",
    " ZEROeONEdTWOcHREEfFOURdIVEeSIXcEVENfEIGHTfNINEkLETTER KAbHAdGAcNGAdSAbHAdZAcNYAdTAcHTAdNAcPAbHAdMAcDAcBAcRA",
    "cYAcLAcWAcTHAdHAcVAcCAcAbOEcIbOOjVOWEL UEcEbUbEEcOhTONE PLOPHUgCALYAa PLOPHUrSIGN CWIdSHYAsREJANG LETTER KAc",
    "GAcNGAdTAcDAcNAcPAcBAcMAcCAcJAcNYAdSAcRAcLAcYAcWAcHAcMBAdNGGAdDAcYJAeAiVOWEL SIGN IbUbEbAIcObAUcEUbAnCONSONA",
    "NT SIGN NGcNbRbHqVIRAMA"]⟩,
  ⟨0xA95F, [
    "aREJANG SECTION MARKtHANGUL CHOSEONG TIKEUT-MIEUMfPIEUPfSIOSeCIEUCmRIEUL-KIYEOKgSSANGKIYEOKlTIKEUTgSSANGTIKE",
    "UTlMIEUMfPIEUPfSSANGPIEUPkKAPYEOUNPIEUPnSIOSeCIEUCfKHIEUKHnMIEUM-KIYEOKgTIKEUTgSIOSkPIEUP-SIOS-THIEUTHmKHIEU",
    "KHhHIEUHlSSANGSIOS-PIEUPpIEUNG-RIEULfHIEUHlSSANGCIEUC-HIEUHlTHIEUTHmPHIEUPH-HIEUHnHIEUH-SIOSkSSANGYEORINHIEU",
    "H"]⟩,
  ⟨0xA980, [
    "aJAVANESE SIGN PANYANGGAjCECAKfLAYARfWIGNYANmLETTER AbI KAWIgIaIcUbPA CEREKiNGA LELETa RASWADIrEbAIcObKAa SA",
    "SAKfMURDAiGAa MURDAiNGAdCAa MURDAiJAcNYA MURDAjJA MAHAPRANAmNYAdTTAa MAHAPRANAnDDAa MAHAPRANAnNA MURDAiTAa M",
    "URDAiDAa MAHAPRANAmNAcPAa MURDAiBAa MURDAiMAcYAcRAa AGUNGiLAcWAcSA MURDAeAHAPRANAlAcHAjSIGN CECAK TELUpVOWEL",
    " SIGN TARUNGfOLONGgWULUa MELIKkSUKUa MENDUTlTALINGgDIRGA MUREkPEPETqCONSONANT SIGN KERETfPENGKALhCAKRAuPANGK",
    "ONhLEFT RERENGGANoRIGHT RERENGGANpPADA ANDAPfMADYAfLUHURfWINDUfPANGKAThLINGSAfUNGSIgADEGa ADEGjPISELEHmTURNE",
    "D PADA PISELEH"]⟩,
  ⟨0xA9CF, ["aJAVANESE PANGRANGKEPlDIGIT ZEROeONEdTWOcHREEfFOURdIVEeSIXcEVENfEIGHTfNINE"]⟩,
  ⟨0xA9DE, [
    "aJAVANESE PADA TIRTA TUMETESnISEN-ISENxMYANMAR LETTER SHAN GHAdCHAdJHAdNNAdBHApSIGN SHAN SAWnMODIFIER LETTER",
    " SHAN REDUPLICATIONzjLETTER TAI LAING NYAdFAcGAbHAdJAbHAdDDAbHAeNNAuTAI LAING DIGIT ZEROeONEdTWOcHREEfFOURdI",
    "VEeSIXcEVENfEIGHTfNINEuLETTER TAI LAING LLAdDAbHAdBAbHA"]⟩,
  ⟨0xAA00, [
    "aCHAM LETTER AbIbUbEbAIcObKAbHAdGAbHAdNGUEcAdCHAbHAeJAbHAdNHUEcAbJAeTAbHAdDAbHAdNUEcAcDDAdPAbPAcHAdBAbHAdMUE",
    "cAcBBAdYAcRAcLAcVAcSSAcAcHAjVOWEL SIGN AAcIaIcEIcUbOEcObAIbUcUEnCONSONANT SIGN YAcRAcLAcWA"]⟩,
  ⟨0xAA40, [
    "aCHAM LETTER FINAL KbGbNGpCONSONANT SIGN FINAL NGxLETTER FINAL CHcTbNbPbYbRbLbSSpCONSONANT SIGN FINAL MbH"]⟩,
  ⟨0xAA50, ["aCHAM DIGIT ZEROeONEdTWOcHREEfFOURdIVEeSIXcEVENfEIGHTfNINE"]⟩,
  ⟨0xAA5C, [
    "aCHAM PUNCTUATION SPIRALgDANDAeOUBLE DANDAmTRIPLE DANDAzeMYANMAR LETTER KHAMTI GAcCAbHAdJAbHAdNYAdTTAbHAeDDA",
    "bHAdHAdNAcSAcHAbHAdFAqMODIFIER LETTER KHAMTI REDUPLICATIONzlLETTER KHAMTI XAcZAcRApOGOGRAM KHAMTI OAYdQNcHMs",
    "SYMBOL AITON EXCLAMATIONlONEdTWOqLETTER AITON RApSIGN PAO KAREN TONEoTAI LAING TONE-2b5vLETTER SHWE PALAUNG ",
    "CHAdSHAzgTAI VIET LETTER LOW KOgHIGH KOhLOW KHOhHIGH KHOiLOW KHHOiHIGH KHHOjLOW GOgHIGH GOhLOW NGOhHIGH NGOi",
    "LOW COgHIGH COhLOW CHOhHIGH CHOiLOW SOgHIGH SOhLOW NYOhHIGH NYOiLOW DOgHIGH DOhLOW TOgHIGH TOhLOW THOhHIGH T",
    "HOiLOW NOgHIGH NOhLOW BOgHIGH BOhLOW POgHIGH POhLOW PHOhHIGH PHOiLOW FOgHIGH FOhLOW MOgHIGH MOhLOW YOgHIGH Y",
    "OhLOW ROgHIGH ROhLOW LOgHIGH LOhLOW VOgHIGH VOhLOW HOgHIGH HOhLOW OfHIGH OnMAI KANGiVOWEL AAcIbUEcUbEbOhMAI ",
    "KHITiVOWEL IAcUEAcAcAUEcYbNbMiTONE MAI EKcNUENGfTHOdSONG"]⟩,
  ⟨0xAADB, [
    "aTAI VIET SYMBOL KONdNUENGfSAMdHO HOIgKOI KOIxMEETEI MAYEK LETTER EbObCHAdNYAdTTAbHAeDDAbHAeNNAdSHAcSAkVOWEL",
    " SIGN IIcUUcAAIcUbAUoCHEIKHANiAHANG KHUDAMlNJIeSYLLABLE REPETITION MARKyWORD REPETITION MARKuVOWEL SIGN VISA",
    "RGArIRAMA"]⟩,
  ⟨0xAB01, ["aETHIOPIC SYLLABLE TTHUbIbAAcEEcEbO"]⟩,
  ⟨0xAB09, ["aETHIOPIC SYLLABLE DDHUbIbAAcEEcEbO"]⟩,
  ⟨0xAB11, ["aETHIOPIC SYLLABLE DZUbIbAAcEEcEbO"]⟩,
  ⟨0xAB20, ["aETHIOPIC SYLLABLE CCHHAbUbIbAAcEEcEbO"]⟩,
  ⟨0xAB28, ["aETHIOPIC SYLLABLE BBAbUbIbAAcEEcEbO"]⟩,
  ⟨0xAB30, [
    "aLATIN SMALL LETTER BARRED ALPHAmA REVERSED-SCHWAqBLACKLETTER EmARRED EiE WITH FLOURISHpLENIS FhSCRIPT G WIT",
    "H CROSSED-TAILzbL WITH INVERTED LAZY SpDOUBLE MIDDLE TILDEtMIDDLE RINGsM WITH CROSSED-TAILtN WITH CROSSED-TA",
    "ILtENG WITH CROSSED-TAILvBLACKLETTER Oa WITH STROKEzaOPEN O WITH STROKEsINVERTED OElTURNED OE WITH STROKEgHO",
    "RIZONTAL STROKEy OPEN-Oa WITH STROKEzcSTIRRUP RwLETTER SMALL CAPITAL R WITH RIGHT LEGzmSMALL LETTER R WITHOU",
    "T HANDLEqDOUBLE RiR WITH CROSSED-TAILtDOUBLE R WITH CROSSED-TAILzbSCRIPT Ra WITH RINGsBASELINE ESHmU WITH SH",
    "ORT RIGHT LEGuBAR WITH SHORT RIGHT LEGzaIcTURNED UIjU WITH LEFT HOOKqCHIa WITH LOW RIGHT RINGkLEFT SERIFxX W",
    "ITH LOW RIGHT RINGmNG LEFT LEGa AND LOW RIGHT RINGsWITH SERIFzgY WITH SHORT RIGHT LEGzqMODIFIER BREVE WITH I",
    "NVERTED BREVEzaLETTER SMALL HENGeL WITH INVERTED LAZY SpMIDDLE TILDEtU WITH LEFT HOOKznLATIN SMALL LETTER SA",
    "KHA YATjIOTIFIED EkOPEN OEhUOcINVERTED ALPHAziGREEK LETTER SMALL CAPITAL OMEGAzhLATIN SMALL LETTER DZ DIGRAP",
    "H WITH RETROFLEX HOOKzfTS DIGRAPH WITH RETROFLEX HOOKzeURNED R WITH MIDDLE TILDEzuMODIFIER LETTER SMALL TURN",
    "ED WoLEFT TACKjRIGHT TACK"]⟩,
  ⟨0xAB70, [
    "aCHEROKEE SMALL LETTER AbEbIbObUbVbGAcKAcGEbIbObUbVcHAbEbIbObUbVcLAbEbIbObUbVcMAbEbIbObUcNAcHNAdNAHcEbIbObUb",
    "VcQUAbEbIbObUbVdSAcSaEbIbObUbVcDAcTAcDEcTEcDIcTIcDObUbVbLAdTLAbEbIbObUbVcSAbEbIbObUbVdWAbEbIbObUbVcYAyMEETEI",
    " MAYEK LETTER KOKdSAMdLAIdMITdPAcNAcCHILeTILdKHOUeNGOUeTHOUeWAIdYANGeHUKdUNcIbPHAMeATIYAfGOKdJHAMeRAIdBAcJIL",
    "dDILdGHOUeDHOUeBHAMeKOK LONSUMkLAI LONSUMkMIT LONSUMkPA LONSUMjNA LONSUMjTIL LONSUMkNGOU LONSUMlI LONSUMpVOW",
    "EL SIGN ONAPeINAPeANAPeYENAPfSOUNAPgUNAPeCHEINAPhNUNGpCHEIKHEIiLUM IYEKiAPUN IYEK"]⟩,
  ⟨0xABF0, ["aMEETEI MAYEK DIGIT ZEROeONEdTWOcHREEfFOURdIVEeSIXcEVENfEIGHTfNINE"]⟩,
  ⟨0xD7B0, [
    "aHANGUL JUNGSEONG O-YEOdO-IfYO-AaEcEOfU-YEOdI-IfYU-AEcOeEU-AbEOcEbOeI-YA-OcEcEOcEcO-IdYObUcIdARAEA-AbE"]⟩,
  ⟨0xD7CB, [
    "aHANGUL JONGSEONG NIEUN-RIEULfCHIEUCHnSSANGTIKEUTa-PIEUPrTIKEUT-PIEUPfSIOSa-KIYEOKlCIEUCeHIEUCHhTHIEUTHoRIEU",
    "L-SSANGKIYEOKlKIYEOK-HIEUHsSSANGRIEUL-KHIEUKHsRIEUL-MIEUM-HIEUHlPIEUP-TIKEUTgPHIEUPHnYESIEUNGgORINHIEUH-HIEU",
    "HxKAPYEOUNRIEULnMIEUM-NIEUNfSSANGNIEUNqSSANGMIEUMkMIEUM-PIEUP-SIOSkCIEUClPIEUP-TIKEUTgRIEUL-PHIEUPHnMIEUMlSS",
    "ANGPIEUPkPIEUP-SIOS-TIKEUTlCIEUCeHIEUCHnSIOS-MIEUMfKAPYEOUNPIEUPrSANGSIOS-KIYEOKgTIKEUTpIOS-PANSIOShCIEUCeHI",
    "EUCHhTHIEUTHhHIEUHkPANSIOS-PIEUPfKAPYEOUNPIEUPvYESIEUNG-MIEUMfHIEUHoCIEUC-PIEUPfSSANGPIEUPqSSANGCIEUCkPHIEUP",
    "H-SIOSeTHIEUTH"]⟩,
  ⟨0xF900, [
    "aCJK COMPATIBILITY IDEOGRAPH-F900b1b2b3b4b5b6b7b8b9bAbBbCbDbEbFc10b1b2b3b4b5b6b7b8b9bAbBbCbDbEbFc20b1b2b3b4b",
    "5b6b7b8b9bAbBbCbDbEbFc30b1b2b3b4b5b6b7b8b9bAbBbCbDbEbFc40b1b2b3b4b5b6b7b8b9bAbBbCbDbEbFc50b1b2b3b4b5b6b7b8b9",
    "bAbBbCbDbEbFc60b1b2b3b4b5b6b7b8b9bAbBbCbDbEbFc70b1b2b3b4b5b6b7b8b9bAbBbCbDbEbFc80b1b2b3b4b5b6b7b8b9bAbBbCbDb",
    "EbFc90b1b2b3b4b5b6b7b8b9bAbBbCbDbEbFcA0b1b2b3b4b5b6b7b8b9bAbBbCbDbEbFcB0b1b2b3b4b5b6b7b8b9bAbBbCbDbEbFcC0b1b",
    "2b3b4b5b6b7b8b9bAbBbCbDbEbFcD0b1b2b3b4b5b6b7b8b9bAbBbCbDbEbFcE0b1b2b3b4b5b6b7b8b9bAbBbCbDbEbFcF0b1b2b3b4b5b6",
    "b7b8b9bAbBbCbDbEbFdA00b1b2b3b4b5b6b7b8b9bAbBbCbDbEbFc10b1b2b3b4b5b6b7b8b9bAbBbCbDbEbFc20b1b2b3b4b5b6b7b8b9bA",
    "bBbCbDbEbFc30b1b2b3b4b5b6b7b8b9bAbBbCbDbEbFc40b1b2b3b4b5b6b7b8b9bAbBbCbDbEbFc50b1b2b3b4b5b6b7b8b9bAbBbCbDbEb",
    "Fc60b1b2b3b4b5b6b7b8b9bAbBbCbD"]⟩,
  ⟨0xFA70, [
    "aCJK COMPATIBILITY IDEOGRAPH-FA70b1b2b3b4b5b6b7b8b9bAbBbCbDbEbFc80b1b2b3b4b5b6b7b8b9bAbBbCbDbEbFc90b1b2b3b4b",
    "5b6b7b8b9bAbBbCbDbEbFcA0b1b2b3b4b5b6b7b8b9bAbBbCbDbEbFcB0b1b2b3b4b5b6b7b8b9bAbBbCbDbEbFcC0b1b2b3b4b5b6b7b8b9",
    "bAbBbCbDbEbFcD0b1b2b3b4b5b6b7b8b9"]⟩,
  ⟨0xFB00, ["aLATIN SMALL LIGATURE FFbIbLbFIbLdLONG S TiST"]⟩,
  ⟨0xFB13, ["aARMENIAN SMALL LIGATURE MEN NOWdECHdINIhVEW NOWhMEN XEH"]⟩,
  ⟨0xFB1D, [
    "aHEBREW LETTER YOD WITH HIRIQvPOINT JUDEO-SPANISH VARIKAzbLIGATURE YIDDISH YOD YOD PATAHzeETTER ALTERNATIVE ",
    "AYINqWIDE ALEFeDALETfHEcKAFdLAMEDfFINAL MEMjRESHeTAViALTERNATIVE PLUS SIGNvSHIN WITH SHIN DOThIN DOThDAGESH ",
    "AND SHIN DOThIN DOTzdALEF WITH PATAHfQAMATSgMAPIQpBET WITH DAGESHpGIMEL WITH DAGESHrDALET WITH DAGESHrHE WIT",
    "H MAPIQnVAV WITH DAGESHpZAYIN WITH DAGESH"]⟩,
  ⟨0xFB38, [
    "aHEBREW LETTER TET WITH DAGESHpYOD WITH DAGESHpFINAL KAF WITH DAGESHvKAF WITH DAGESHpLAMED WITH DAGESH"]⟩,
  ⟨0xFB3E, ["aHEBREW LETTER MEM WITH DAGESH"]⟩,
  ⟨0xFB40, ["aHEBREW LETTER NUN WITH DAGESHpSAMEKH WITH DAGESH"]⟩,
  ⟨0xFB43, ["aHEBREW LETTER FINAL PE WITH DAGESHuPE WITH DAGESH"]⟩,
  ⟨0xFB46, [
    "aHEBREW LETTER TSADI WITH DAGESHrQOF WITH DAGESHpRESH WITH DAGESHqSHIN WITH DAGESHqTAV WITH DAGESHpVAV WITH ",
    "HOLAMoBET WITH RAFEnKAF WITH RAFEnPE WITH RAFEsIGATURE ALEF LAMEDzbARABIC LETTER ALEF WASLA ISOLATED FORMnFI",
    "NAL FORMvBEEH ISOLATED FORMnFINAL FORMkINITIAL FORMmMEDIAL FORMqPEH ISOLATED FORMnFINAL FORMkINITIAL FORMmME",
    "DIAL FORMpBEHEH ISOLATED FORMnFINAL FORMkINITIAL FORMmMEDIAL FORMrTTEHEH ISOLATED FORMnFINAL FORMkINITIAL FO",
    "RMmMEDIAL FORMrEHEH ISOLATED FORMnFINAL FORMkINITIAL FORMmMEDIAL FORMqTEH ISOLATED FORMnFINAL FORMkINITIAL F",
    "ORMmMEDIAL FORMqVEH ISOLATED FORMnFINAL FORMkINITIAL FORMmMEDIAL FORMpPEHEH ISOLATED FORMnFINAL FORMkINITIAL",
    " FORMmMEDIAL FORMrDYEH ISOLATED FORMnFINAL FORMkINITIAL FORMmMEDIAL FORMqNYEH ISOLATED FORMnFINAL FORMkINITI",
    "AL FORMmMEDIAL FORMqTCHEH ISOLATED FORMnFINAL FORMkINITIAL FORMmMEDIAL FORMmEH ISOLATED FORMnFINAL FORMkINIT",
    "IAL FORMmMEDIAL FORMtDDAHAL ISOLATED FORMnFINAL FORMqAHAL ISOLATED FORMnFINAL FORMpUL ISOLATED FORMnFINAL FO",
    "RMnDAL ISOLATED FORMnFINAL FORMpJEH ISOLATED FORMnFINAL FORMoRREH ISOLATED FORMnFINAL FORMpKEHEH ISOLATED FO",
    "RMnFINAL FORMkINITIAL FORMmMEDIAL FORMrGAF ISOLATED FORMnFINAL FORMkINITIAL FORMmMEDIAL FORMoUEH ISOLATED FO",
    "RMnFINAL FORMkINITIAL FORMmMEDIAL FORMqNGOEH ISOLATED FORMnFINAL FORMkINITIAL FORMmMEDIAL FORMqOON GHUNNA IS",
    "OLATED FORMnFINAL FORMwRNOON ISOLATED FORMnFINAL FORMkINITIAL FORMmMEDIAL FORMrHEH WITH YEH ABOVE ISOLATED F",
    "ORMnFINAL FORMzaGOAL ISOLATED FORMnFINAL FORMkINITIAL FORMmMEDIAL FORMqDOACHASHMEE ISOLATED FORMnFINAL FORMk",
    "INITIAL FORMmMEDIAL FORMzcYEH BARREE ISOLATED FORMnFINAL FORMkWITH HAMZA ABOVE ISOLATED FORMnFINAL FORMzuSYM",
    "BOL DOT ABOVEfBELOWjTWO DOTS ABOVEfBELOWnHREE DOTS ABOVEfBELOWfPOINTING DOWNWARDS ABOVEfBELOWzkFOUR DOTS ABO",
    "VEfBELOWpDOUBLE VERTICAL BAR BELOWzaTWO DOTS VERTICALLY ABOVEfBELOWzaRINGeSMALL TAH ABOVEfBELOWpWASLA ABOVE"]⟩,
  ⟨0xFBD3, [
    "aARABIC LETTER NG ISOLATED FORMnFINAL FORMkINITIAL FORMmMEDIAL FORMoU ISOLATED FORMnFINAL FORMmOE ISOLATED F",
    "ORMnFINAL FORMnYU ISOLATED FORMnFINAL FORMnU WITH HAMZA ABOVE ISOLATED FORMzhVE ISOLATED FORMnFINAL FORMnKIR",
    "GHIZ OE ISOLATED FORMnFINAL FORMnYU ISOLATED FORMnFINAL FORMvE ISOLATED FORMnFINAL FORMkINITIAL FORMmMEDIAL ",
    "FORMnUIGHUR KAZAKH KIRGHIZ ALEF MAKSURA INITIAL FORMmMEDIAL FORMzzcIGATURE YEH WITH HAMZA ABOVE WITH ALEF IS",
    "OLATED FORMnFINAL FORMoE ISOLATED FORMnFINAL FORMnWAW ISOLATED FORMnFINAL FORMoU ISOLATED FORMnFINAL FORMmOE",
    " ISOLATED FORMnFINAL FORMnYU ISOLATED FORMnFINAL FORMnE ISOLATED FORMnFINAL FORMkINITIAL FORMzpUIGHUR KIRGHI",
    "Z YEH WITH HAMZA ABOVE WITH ALEF MAKSURA ISOLATED FORMnFINAL FORMkINITIAL FORMzzyETTER FARSI YEH ISOLATED FO",
    "RMnFINAL FORMkINITIAL FORMmMEDIAL FORMzcIGATURE YEH WITH HAMZA ABOVE WITH JEEM ISOLATED FORMsHAH ISOLATED FO",
    "RMrMEEM ISOLATED FORMsALEF MAKSURA ISOLATED FORMzbYEH ISOLATED FORMzsBEH WITH JEEM ISOLATED FORMsHAH ISOLATE",
    "D FORMrKHAH ISOLATED FORMsMEEM ISOLATED FORMsALEF MAKSURA ISOLATED FORMzbYEH ISOLATED FORMzbTEH WITH JEEM IS",
    "OLATED FORMsHAH ISOLATED FORMrKHAH ISOLATED FORMsMEEM ISOLATED FORMsALEF MAKSURA ISOLATED FORMzbYEH ISOLATED",
    " FORMzaHEH WITH JEEM ISOLATED FORMsMEEM ISOLATED FORMsALEF MAKSURA ISOLATED FORMzbYEH ISOLATED FORMzcJEEM WI",
    "TH HAH ISOLATED FORMrMEEM ISOLATED FORMzdHAH WITH JEEM ISOLATED FORMsMEEM ISOLATED FORMzcKHAH WITH JEEM ISOL",
    "ATED FORMsHAH ISOLATED FORMrMEEM ISOLATED FORMzdSEEN WITH JEEM ISOLATED FORMsHAH ISOLATED FORMrKHAH ISOLATED",
    " FORMsMEEM ISOLATED FORMzcAD WITH HAH ISOLATED FORMrMEEM ISOLATED FORMzcDAD WITH JEEM ISOLATED FORMsHAH ISOL",
    "ATED FORMrKHAH ISOLATED FORMsMEEM ISOLATED FORMzcTAH WITH HAH ISOLATED FORMrMEEM ISOLATED FORMzcZAH WITH MEE",
    "M ISOLATED FORMzcAIN WITH JEEM ISOLATED FORMsMEEM ISOLATED FORMzcGHAIN WITH JEEM ISOLATED FORMsMEEM ISOLATED",
    " FORMzeFEH WITH JEEM ISOLATED FORMsHAH ISOLATED FORMrKHAH ISOLATED FORMsMEEM ISOLATED FORMsALEF MAKSURA ISOL",
    "ATED FORMzbYEH ISOLATED FORMzbQAF WITH HAH ISOLATED FORMrMEEM ISOLATED FORMsALEF MAKSURA ISOLATED FORMzbYEH ",
    "ISOLATED FORMzbKAF WITH ALEF ISOLATED FORMsJEEM ISOLATED FORMsHAH ISOLATED FORMrKHAH ISOLATED FORMsLAM ISOLA",
    "TED FORMrMEEM ISOLATED FORMsALEF MAKSURA ISOLATED FORMzbYEH ISOLATED FORMzbLAM WITH JEEM ISOLATED FORMsHAH I",
    "SOLATED FORMrKHAH ISOLATED FORMsMEEM ISOLATED FORMsALEF MAKSURA ISOLATED FORMzbYEH ISOLATED FORMzbMEEM WITH ",
    "JEEM ISOLATED FORMsHAH ISOLATED FORMrKHAH ISOLATED FORMsMEEM ISOLATED FORMsALEF MAKSURA ISOLATED FORMzbYEH I",
    "SOLATED FORMzcNOON WITH JEEM ISOLATED FORMsHAH ISOLATED FORMrKHAH ISOLATED FORMsMEEM ISOLATED FORMsALEF MAKS",
    "URA ISOLATED FORMzbYEH ISOLATED FORMzcHEH WITH JEEM ISOLATED FORMsMEEM ISOLATED FORMsALEF MAKSURA ISOLATED F",
    "ORMzbYEH ISOLATED FORMzbYEH WITH JEEM ISOLATED FORMsHAH ISOLATED FORMrKHAH ISOLATED FORMsMEEM ISOLATED FORMs",
    "ALEF MAKSURA ISOLATED FORMzbYEH ISOLATED FORMzbTHAL WITH SUPERSCRIPT ALEF ISOLATED FORMzpREH WITH SUPERSCRIP",
    "T ALEF ISOLATED FORMzoALEF MAKSURA WITH SUPERSCRIPT ALEF ISOLATED FORMzxSHADDA WITH DAMMATAN ISOLATED FORMwK",
    "ASRATAN ISOLATED FORMwFATHA ISOLATED FORMtDAMMA ISOLATED FORMtKASRA ISOLATED FORMtSUPERSCRIPT ALEF ISOLATED ",
    "FORMzrYEH WITH HAMZA ABOVE WITH REH FINAL FORMoZAIN FINAL FORMpMEEM FINAL FORMpNOON FINAL FORMpALEF MAKSURA ",
    "FINAL FORMxYEH FINAL FORMzpBEH WITH REH FINAL FORMoZAIN FINAL FORMpMEEM FINAL FORMpNOON FINAL FORMpALEF MAKS",
    "URA FINAL FORMxYEH FINAL FORMxTEH WITH REH FINAL FORMoZAIN FINAL FORMpMEEM FINAL FORMpNOON FINAL FORMpALEF M",
    "AKSURA FINAL FORMxYEH FINAL FORMwHEH WITH REH FINAL FORMoZAIN FINAL FORMpMEEM FINAL FORMpNOON FINAL FORMpALE",
    "F MAKSURA FINAL FORMxYEH FINAL FORMyFEH WITH ALEF MAKSURA FINAL FORMxYEH FINAL FORMxQAF WITH ALEF MAKSURA FI",
    "NAL FORMxYEH FINAL FORMxKAF WITH ALEF FINAL FORMpLAM FINAL FORMoMEEM FINAL FORMpALEF MAKSURA FINAL FORMxYEH ",
    "FINAL FORMxLAM WITH MEEM FINAL FORMpALEF MAKSURA FINAL FORMxYEH FINAL FORMxMEEM WITH ALEF FINAL FORMpMEEM FI",
    "NAL FORMzaNOON WITH REH FINAL FORMoZAIN FINAL FORMpMEEM FINAL FORMpNOON FINAL FORMpALEF MAKSURA FINAL FORMxY",
    "EH FINAL FORMyALEF MAKSURA WITH SUPERSCRIPT ALEF FINAL FORMzuYEH WITH REH FINAL FORMoZAIN FINAL FORMpMEEM FI",
    "NAL FORMpNOON FINAL FORMpALEF MAKSURA FINAL FORMxYEH FINAL FORMoHAMZA ABOVE WITH JEEM INITIAL FORMrHAH INITI",
    "AL FORMqKHAH INITIAL FORMrMEEM INITIAL FORMrHEH INITIAL FORMzrBEH WITH JEEM INITIAL FORMrHAH INITIAL FORMqKH",
    "AH INITIAL FORMrMEEM INITIAL FORMrHEH INITIAL FORMzaTEH WITH JEEM INITIAL FORMrHAH INITIAL FORMqKHAH INITIAL",
    " FORMrMEEM INITIAL FORMrHEH INITIAL FORMyHEH WITH MEEM INITIAL FORMzcJEEM WITH HAH INITIAL FORMqMEEM INITIAL",
    " FORMzcHAH WITH JEEM INITIAL FORMrMEEM INITIAL FORMzbKHAH WITH JEEM INITIAL FORMrMEEM INITIAL FORMzcSEEN WIT",
    "H JEEM INITIAL FORMrHAH INITIAL FORMqKHAH INITIAL FORMrMEEM INITIAL FORMzbAD WITH HAH INITIAL FORMqKHAH INIT",
    "IAL FORMrMEEM INITIAL FORMzbDAD WITH JEEM INITIAL FORMrHAH INITIAL FORMqKHAH INITIAL FORMrMEEM INITIAL FORMz",
    "bTAH WITH HAH INITIAL FORMzaZAH WITH MEEM INITIAL FORMzbAIN WITH JEEM INITIAL FORMrMEEM INITIAL FORMzbGHAIN ",
    "WITH JEEM INITIAL FORMrMEEM INITIAL FORMzdFEH WITH JEEM INITIAL FORMrHAH INITIAL FORMqKHAH INITIAL FORMrMEEM",
    " INITIAL FORMzbQAF WITH HAH INITIAL FORMqMEEM INITIAL FORMzbKAF WITH JEEM INITIAL FORMrHAH INITIAL FORMqKHAH",
    " INITIAL FORMrLAM INITIAL FORMqMEEM INITIAL FORMzbLAM WITH JEEM INITIAL FORMrHAH INITIAL FORMqKHAH INITIAL F",
    "ORMrMEEM INITIAL FORMrHEH INITIAL FORMzaMEEM WITH JEEM INITIAL FORMrHAH INITIAL FORMqKHAH INITIAL FORMrMEEM ",
    "INITIAL FORMzcNOON WITH JEEM INITIAL FORMrHAH INITIAL FORMqKHAH INITIAL FORMrMEEM INITIAL FORMrHEH INITIAL F",
    "ORMzbHEH WITH JEEM INITIAL FORMrMEEM INITIAL FORMrSUPERSCRIPT ALEF INITIAL FORMznYEH WITH JEEM INITIAL FORMr",
    "HAH INITIAL FORMqKHAH INITIAL FORMrMEEM INITIAL FORMrHEH INITIAL FORMpAMZA ABOVE WITH MEEM MEDIAL FORMqHEH M",
    "EDIAL FORMzqBEH WITH MEEM MEDIAL FORMqHEH MEDIAL FORMyTEH WITH MEEM MEDIAL FORMqHEH MEDIAL FORMxHEH WITH MEE",
    "M MEDIAL FORMqHEH MEDIAL FORMzaSEEN WITH MEEM MEDIAL FORMqHEH MEDIAL FORMyHEEN WITH MEEM MEDIAL FORMqHEH MED",
    "IAL FORMzbKAF WITH LAM MEDIAL FORMpMEEM MEDIAL FORMzaLAM WITH MEEM MEDIAL FORMzaNOON WITH MEEM MEDIAL FORMqH",
    "EH MEDIAL FORMzaYEH WITH MEEM MEDIAL FORMqHEH MEDIAL FORMySHADDA WITH FATHA MEDIAL FORMrDAMMA MEDIAL FORMrKA",
    "SRA MEDIAL FORMzeTAH WITH ALEF MAKSURA ISOLATED FORMzbYEH ISOLATED FORMzbAIN WITH ALEF MAKSURA ISOLATED FORM",
    "zbYEH ISOLATED FORMzbGHAIN WITH ALEF MAKSURA ISOLATED FORMzbYEH ISOLATED FORMzdSEEN WITH ALEF MAKSURA ISOLAT",
    "ED FORMzbYEH ISOLATED FORMzbHEEN WITH ALEF MAKSURA ISOLATED FORMzbYEH ISOLATED FORMzdHAH WITH ALEF MAKSURA I",
    "SOLATED FORMzbYEH ISOLATED FORMzbJEEM WITH ALEF MAKSURA ISOLATED FORMzbYEH ISOLATED FORMzcKHAH WITH ALEF MAK",
    "SURA ISOLATED FORMzbYEH ISOLATED FORMzcSAD WITH ALEF MAKSURA ISOLATED FORMzbYEH ISOLATED FORMzbDAD WITH ALEF",
    " MAKSURA ISOLATED FORMzbYEH ISOLATED FORMzbSHEEN WITH JEEM ISOLATED FORMsHAH ISOLATED FORMrKHAH ISOLATED FOR",
    "MsMEEM ISOLATED FORMsREH ISOLATED FORMzcEEN WITH REH ISOLATED FORMzbAD WITH REH ISOLATED FORMzbDAD WITH REH ",
    "ISOLATED FORMzbTAH WITH ALEF MAKSURA FINAL FORMxYEH FINAL FORMxAIN WITH ALEF MAKSURA FINAL FORMxYEH FINAL FO",
    "RMxGHAIN WITH ALEF MAKSURA FINAL FORMxYEH FINAL FORMzaSEEN WITH ALEF MAKSURA FINAL FORMxYEH FINAL FORMxHEEN ",
    "WITH ALEF MAKSURA FINAL FORMxYEH FINAL FORMzaHAH WITH ALEF MAKSURA FINAL FORMxYEH FINAL FORMxJEEM WITH ALEF ",
    "MAKSURA FINAL FORMxYEH FINAL FORMyKHAH WITH ALEF MAKSURA FINAL FORMxYEH FINAL FORMySAD WITH ALEF MAKSURA FIN",
    "AL FORMxYEH FINAL FORMxDAD WITH ALEF MAKSURA FINAL FORMxYEH FINAL FORMxSHEEN WITH JEEM FINAL FORMpHAH FINAL ",
    "FORMoKHAH FINAL FORMpMEEM FINAL FORMpREH FINAL FORMyEEN WITH REH FINAL FORMxAD WITH REH FINAL FORMxDAD WITH ",
    "REH FINAL FORMxSHEEN WITH JEEM INITIAL FORMrHAH INITIAL FORMqKHAH INITIAL FORMrMEEM INITIAL FORMzcEEN WITH H",
    "EH INITIAL FORMzaHEEN WITH HEH INITIAL FORMzcTAH WITH MEEM INITIAL FORMzbSEEN WITH JEEM MEDIAL FORMqHAH MEDI",
    "AL FORMpKHAH MEDIAL FORMzaHEEN WITH JEEM MEDIAL FORMqHAH MEDIAL FORMpKHAH MEDIAL FORMzcTAH WITH MEEM MEDIAL ",
    "FORMzaZAH WITH MEEM MEDIAL FORMzaALEF WITH FATHATAN FINAL FORMkISOLATED FORMzxORNATE LEFT PARENTHESISqRIGHT ",
    "PARENTHESISyARABIC LIGATURE RAHIMAHU ALLAAHnDI ALLAAHU ANHaAAcUMaAAdNNAuSALLALLAAHU ALAYHI WA-AALIHzcALAYHI ",
    "AS-SALAAMkM AS-SALAAMkAA AS-SALAAMn AS-SALAATU WAS-SALAAMzdQUDDISA SIRRAHoSALLALLAHU ALAYHI WAAALIHEE WA-SAL",
    "LAMzmALAYHAA AS-SALAAMrTABAARAKA WA-TAAALAAuRAHIMAHUM ALLAAHqTEH WITH JEEM WITH MEEM INITIAL FORMzcHAH WITH ",
    "JEEM FINAL FORMkINITIAL FORMrMEEM INITIAL FORMzbKHAH WITH MEEM INITIAL FORMzcMEEM WITH JEEM INITIAL FORMrHAH",
    " INITIAL FORMqKHAH INITIAL FORMzlJEEM WITH MEEM WITH HAH FINAL FORMkINITIAL FORMzlHAH WITH MEEM WITH YEH FIN",
    "AL FORMoALEF MAKSURA FINAL FORMzrSEEN WITH HAH WITH JEEM INITIAL FORMzbJEEM WITH HAH INITIAL FORMqALEF MAKSU",
    "RA FINAL FORMziMEEM WITH HAH FINAL FORMkINITIAL FORMqJEEM INITIAL FORMrMEEM FINAL FORMkINITIAL FORMzlAD WITH",
    " HAH WITH HAH FINAL FORMkINITIAL FORMzaMEEM WITH MEEM FINAL FORMziHEEN WITH HAH WITH MEEM FINAL FORMkINITIAL",
    " FORMzbJEEM WITH YEH FINAL FORMyMEEM WITH KHAH FINAL FORMkINITIAL FORMrMEEM FINAL FORMkINITIAL FORMznDAD WIT",
    "H HAH WITH ALEF MAKSURA FINAL FORMzhKHAH WITH MEEM FINAL FORMkINITIAL FORMzlTAH WITH MEEM WITH HAH FINAL FOR",
    "MkINITIAL FORMqMEEM INITIAL FORMrYEH FINAL FORMziAIN WITH JEEM WITH MEEM FINAL FORMzaMEEM WITH MEEM FINAL FO",
    "RMkINITIAL FORMrALEF MAKSURA FINAL FORMzrGHAIN WITH MEEM WITH MEEM FINAL FORMpYEH FINAL FORMoALEF MAKSURA FI",
    "NAL FORMztFEH WITH KHAH WITH MEEM FINAL FORMkINITIAL FORMzlQAF WITH MEEM WITH HAH FINAL FORMoMEEM FINAL FORM",
    "zjLAM WITH HAH WITH MEEM FINAL FORMpYEH FINAL FORMoALEF MAKSURA FINAL FORMzhJEEM WITH JEEM INITIAL FORMmFINA",
    "L FORMzaKHAH WITH MEEM FINAL FORMkINITIAL FORMzcMEEM WITH HAH FINAL FORMkINITIAL FORMzkMEEM WITH HAH WITH JE",
    "EM INITIAL FORMrMEEM INITIAL FORMrYEH FINAL FORMxJEEM WITH HAH INITIAL FORMqMEEM INITIAL FORMzcKHAH WITH JEE",
    "M INITIAL FORMrMEEM INITIAL FORM"]⟩,
  ⟨0xFD92, [
    "aARABIC LIGATURE MEEM WITH JEEM WITH KHAH INITIAL FORMzmHEH WITH MEEM WITH JEEM INITIAL FORMrMEEM INITIAL FO",
    "RMzlNOON WITH HAH WITH MEEM INITIAL FORMrALEF MAKSURA FINAL FORMzhJEEM WITH MEEM FINAL FORMkINITIAL FORMrALE",
    "F MAKSURA FINAL FORMziMEEM WITH YEH FINAL FORMoALEF MAKSURA FINAL FORMzsYEH WITH MEEM WITH MEEM FINAL FORMkI",
    "NITIAL FORMzlBEH WITH KHAH WITH YEH FINAL FORMziTEH WITH JEEM WITH YEH FINAL FORMoALEF MAKSURA FINAL FORMziK",
    "HAH WITH YEH FINAL FORMoALEF MAKSURA FINAL FORMziMEEM WITH YEH FINAL FORMoALEF MAKSURA FINAL FORMzrJEEM WITH",
    " MEEM WITH YEH FINAL FORMyHAH WITH ALEF MAKSURA FINAL FORMzhMEEM WITH ALEF MAKSURA FINAL FORMzsSEEN WITH KHA",
    "H WITH ALEF MAKSURA FINAL FORMzrAD WITH HAH WITH YEH FINAL FORMzgHEEN WITH HAH WITH YEH FINAL FORMzjDAD WITH",
    " HAH WITH YEH FINAL FORMzhLAM WITH JEEM WITH YEH FINAL FORMyMEEM WITH YEH FINAL FORMziYEH WITH HAH WITH YEH ",
    "FINAL FORMxJEEM WITH YEH FINAL FORMyMEEM WITH YEH FINAL FORMziMEEM WITH MEEM WITH YEH FINAL FORMzjQAF WITH M",
    "EEM WITH YEH FINAL FORMziNOON WITH HAH WITH YEH FINAL FORMziQAF WITH MEEM WITH HAH INITIAL FORMzkLAM WITH HA",
    "H WITH MEEM INITIAL FORMzkAIN WITH MEEM WITH YEH FINAL FORMziKAF WITH MEEM WITH YEH FINAL FORMziNOON WITH JE",
    "EM WITH HAH INITIAL FORMzlMEEM WITH KHAH WITH YEH FINAL FORMzjLAM WITH JEEM WITH MEEM INITIAL FORMzlKAF WITH",
    " MEEM WITH MEEM FINAL FORMzjLAM WITH JEEM WITH MEEM FINAL FORMzjNOON WITH JEEM WITH HAH FINAL FORMzjJEEM WIT",
    "H HAH WITH YEH FINAL FORMziHAH WITH JEEM WITH YEH FINAL FORMziMEEM WITH JEEM WITH YEH FINAL FORMzjFEH WITH M",
    "EEM WITH YEH FINAL FORMziBEH WITH HAH WITH YEH FINAL FORMzhKAF WITH MEEM WITH MEEM INITIAL FORMzlAIN WITH JE",
    "EM WITH MEEM INITIAL FORMzlSAD WITH MEEM WITH MEEM INITIAL FORMzkEEN WITH KHAH WITH YEH FINAL FORMzjNOON WIT",
    "H JEEM WITH YEH FINAL FORM"]⟩,
  ⟨0xFDCF, ["aARABIC LIGATURE SALAAMUHU ALAYNAA"]⟩,
  ⟨0xFDF0, [
    "aARABIC LIGATURE SALLA USED AS KORANIC STOP SIGN ISOLATED FORMzuQALA USED AS KORANIC STOP SIGN ISOLATED FORM",
    "ztALLAH ISOLATED FORMsKBAR ISOLATED FORMtMOHAMMAD ISOLATED FORMwSALAM ISOLATED FORMtRASOUL ISOLATED FORMuALA",
    "YHE ISOLATED FORMuWASALLAM ISOLATED FORMwSALLA ISOLATED FORMoLLAHOU ALAYHE WASALLAMzcJALLAJALALOUHOUzgRIAL S",
    "IGNjARABIC LIGATURE BISMILLAH AR-RAHMAN AR-RAHEEMzeSUBHAANAHU WA TAAALAAvAZZA WA JALLzdVARIATION SELECTOR-1b",
    "2b3b4b5b6b7b8b9b10b1b2b3b4b5b6vPRESENTATION FORM FOR VERTICAL COMMAfIDEOGRAPHIC COMMAfFULL STOPvCOLONfSEMICO",
    "LONjEXCLAMATION MARKqQUESTION MARKnLEFT WHITE LENTICULAR BRACKETzeRIGHT WHITE LENTICULAR BRAKCETzfHORIZONTAL",
    " ELLIPSIS"]⟩,
  ⟨0xFE20, [
    "aCOMBINING LIGATURE LEFT HALFjRIGHT HALFtDOUBLE TILDE LEFT HALFjRIGHT HALFxMACRON LEFT HALFjRIGHT HALFrCONJO",
    "INING MACRONrLIGATURE LEFT HALF BELOWpRIGHT HALF BELOWzaTILDE LEFT HALF BELOWpRIGHT HALF BELOWwMACRON LEFT H",
    "ALF BELOWpRIGHT HALF BELOWxCONJOINING MACRON BELOWwYRILLIC TITLO LEFT HALFjRIGHT HALFzkPRESENTATION FORM FOR",
    " VERTICAL TWO DOT LEADERoEM DASHgN DASHhLOW LINEiWAVY LOW LINEnLEFT PARENTHESISqRIGHT PARENTHESISrLEFT CURLY",
    " BRACKETsRIGHT CURLY BRACKETtLEFT TORTOISE SHELL BRACKETzcRIGHT TORTOISE SHELL BRACKETzdLEFT BLACK LENTICULA",
    "R BRACKETzeRIGHT BLACK LENTICULAR BRACKETzfLEFT DOUBLE ANGLE BRACKETzaRIGHT DOUBLE ANGLE BRACKETzbLEFT ANGLE",
    " BRACKETsRIGHT ANGLE BRACKETtLEFT CORNER BRACKETtRIGHT CORNER BRACKETuLEFT WHITE CORNER BRACKETzaRIGHT WHITE",
    " CORNER BRACKETzzhSESAME DOTkWHITE SESAME DOTqPRESENTATION FORM FOR VERTICAL LEFT SQUARE BRACKETtRIGHT SQUAR",
    "E BRACKETzzbDASHED OVERLINEpCENTRELINE OVERLINEtWAVY OVERLINEnDOUBLE WAVY OVERLINEtASHED LOW LINEpCENTRELINE",
    " LOW LINEtWAVY LOW LINEnSMALL COMMAfIDEOGRAPHIC COMMArFULL STOP"]⟩,
  ⟨0xFE54, [
    "aSMALL SEMICOLONjCOLONfQUESTION MARKnEXCLAMATION MARKpM DASHhLEFT PARENTHESISqRIGHT PARENTHESISrLEFT CURLY B",
    "RACKETsRIGHT CURLY BRACKETtLEFT TORTOISE SHELL BRACKETzcRIGHT TORTOISE SHELL BRACKETzdNUMBER SIGNlAMPERSANDi",
    "STERISKiPLUS SIGNjHYPHEN-MINUSmLESS-THAN SIGNoGREATER-THAN SIGNrEQUALS SIGN"]⟩,
  ⟨0xFE68, ["aSMALL REVERSE SOLIDUSpDOLLAR SIGNlPERCENT SIGNmCOMMERCIAL AT"]⟩,
  ⟨0xFE70, [
    "aARABIC FATHATAN ISOLATED FORMwTATWEEL WITH FATHATAN ABOVEzcDAMMATAN ISOLATED FORMwTAIL FRAGMENTnKASRATAN IS",
    "OLATED FORM"]⟩,
  ⟨0xFE76, [
    "aARABIC FATHA ISOLATED FORMnMEDIAL FORMrDAMMA ISOLATED FORMnMEDIAL FORMrKASRA ISOLATED FORMnMEDIAL FORMrSHAD",
    "DA ISOLATED FORMnMEDIAL FORMrUKUN ISOLATED FORMnMEDIAL FORMrLETTER HAMZA ISOLATED FORMtALEF WITH MADDA ABOVE",
    " ISOLATED FORMnFINAL FORMwHAMZA ABOVE ISOLATED FORMnFINAL FORMzhWAW WITH HAMZA ABOVE ISOLATED FORMnFINAL FOR",
    "MzgALEF WITH HAMZA BELOW ISOLATED FORMnFINAL FORMzhYEH WITH HAMZA ABOVE ISOLATED FORMnFINAL FORMkINITIAL FOR",
    "MmMEDIAL FORMzhALEF ISOLATED FORMnFINAL FORMpBEH ISOLATED FORMnFINAL FORMkINITIAL FORMmMEDIAL FORMpTEH MARBU",
    "TA ISOLATED FORMnFINAL FORMsISOLATED FORMnFINAL FORMkINITIAL FORMmMEDIAL FORMoHEH ISOLATED FORMnFINAL FORMkI",
    "NITIAL FORMmMEDIAL FORMqJEEM ISOLATED FORMnFINAL FORMkINITIAL FORMmMEDIAL FORMqHAH ISOLATED FORMnFINAL FORMk",
    "INITIAL FORMmMEDIAL FORMpKHAH ISOLATED FORMnFINAL FORMkINITIAL FORMmMEDIAL FORMqDAL ISOLATED FORMnFINAL FORM",
    "oTHAL ISOLATED FORMnFINAL FORMpREH ISOLATED FORMnFINAL FORMoZAIN ISOLATED FORMnFINAL FORMpSEEN ISOLATED FORM",
    "nFINAL FORMkINITIAL FORMmMEDIAL FORMpHEEN ISOLATED FORMnFINAL FORMkINITIAL FORMmMEDIAL FORMqAD ISOLATED FORM",
    "nFINAL FORMkINITIAL FORMmMEDIAL FORMpDAD ISOLATED FORMnFINAL FORMkINITIAL FORMmMEDIAL FORMpTAH ISOLATED FORM",
    "nFINAL FORMkINITIAL FORMmMEDIAL FORMpZAH ISOLATED FORMnFINAL FORMkINITIAL FORMmMEDIAL FORMpAIN ISOLATED FORM",
    "nFINAL FORMkINITIAL FORMmMEDIAL FORMpGHAIN ISOLATED FORMnFINAL FORMkINITIAL FORMmMEDIAL FORMrFEH ISOLATED FO",
    "RMnFINAL FORMkINITIAL FORMmMEDIAL FORMpQAF ISOLATED FORMnFINAL FORMkINITIAL FORMmMEDIAL FORMpKAF ISOLATED FO",
    "RMnFINAL FORMkINITIAL FORMmMEDIAL FORMpLAM ISOLATED FORMnFINAL FORMkINITIAL FORMmMEDIAL FORMpMEEM ISOLATED F",
    "ORMnFINAL FORMkINITIAL FORMmMEDIAL FORMqNOON ISOLATED FORMnFINAL FORMkINITIAL FORMmMEDIAL FORMqHEH ISOLATED ",
    "FORMnFINAL FORMkINITIAL FORMmMEDIAL FORMpWAW ISOLATED FORMnFINAL FORMoALEF MAKSURA ISOLATED FORMnFINAL FORMx",
    "YEH ISOLATED FORMnFINAL FORMkINITIAL FORMmMEDIAL FORMvIGATURE LAM WITH ALEF WITH MADDA ABOVE ISOLATED FORMnF",
    "INAL FORMwHAMZA ABOVE ISOLATED FORMnFINAL FORMqBELOW ISOLATED FORMnFINAL FORMzcISOLATED FORMnFINAL FORM"]⟩,
  ⟨0xFEFF, ["aZERO WIDTH NO-BREAK SPACE"]⟩,
  ⟨0xFF01, [
    "aFULLWIDTH EXCLAMATION MARKqQUOTATION MARKoNUMBER SIGNlDOLLAR SIGNlPERCENT SIGNmAMPERSANDiPOSTROPHEkLEFT PAR",
    "ENTHESISqRIGHT PARENTHESISrASTERISKiPLUS SIGNjCOMMAfHYPHEN-MINUSmFULL STOPjSOLIDUShDIGIT ZEROeONEdTWOcHREEfF",
    "OURdIVEeSIXcEVENfEIGHTfNINEkCOLONfSEMICOLONjLESS-THAN SIGNoEQUALS SIGNlGREATER-THAN SIGNrQUESTION MARKnCOMME",
    "RCIAL ATnLATIN CAPITAL LETTER AbBbCbDbEbFbGbHbIbJbKbLbMbNbObPbQbRbSbTbUbVbWbXbYbZvEFT SQUARE BRACKETtREVERSE",
    " SOLIDUSoIGHT SQUARE BRACKETuCIRCUMFLEX ACCENTrLOW LINEiGRAVE ACCENTmLATIN SMALL LETTER AbBbCbDbEbFbGbHbIbJb",
    "KbLbMbNbObPbQbRbSbTbUbVbWbXbYbZtEFT CURLY BRACKETsVERTICAL LINEnRIGHT CURLY BRACKETtTILDEfLEFT WHITE PARENTH",
    "ESISwRIGHT WHITE PARENTHESISziHALFWIDTH IDEOGRAPHIC FULL STOPvLEFT CORNER BRACKETtRIGHT CORNER BRACKETuIDEOG",
    "RAPHIC COMMArKATAKANA MIDDLE DOTkLETTER WOcSMALL AbIbUbEbObYAbUbOcTUq-HIRAGANA PROLONGED SOUND MARKzf LETTER",
    " AbIbUbEbObKAbIbUbEbOcSAbIbUbEbOcTAbIbUbEbOcNAbIbUbEbOcHAbIbUbEbOcMAbIbUbEbOcYAbUbOcRAbIbUbEbOcWAcNiVOICED S",
    "OUND MARKrSEMI-VOICED SOUND MARKzgHANGUL FILLERgLETTER KIYEOKgSSANGKIYEOKlKIYEOK-SIOSlNIEUNa-CIEUCfHIEUHlTIK",
    "EUTgSSANGTIKEUTlRIEULa-KIYEOKgMIEUMfPIEUPfSIOSeTHIEUTHhPHIEUPHhHIEUHlMIEUMfPIEUPfSSANGPIEUPkPIEUP-SIOSkSIOSd",
    "SANGSIOSjIEUNGfCIEUCfSSANGCIEUCkCHIEUCHhKHIEUKHhTHIEUTHhPHIEUPHhHIEUH"]⟩,
  ⟨0xFFC2, ["aHALFWIDTH HANGUL LETTER AaEcYAaEdEOcE"]⟩,
  ⟨0xFFCA, ["aHALFWIDTH HANGUL LETTER YEOcEcObWAaEdOE"]⟩,
  ⟨0xFFD2, ["aHALFWIDTH HANGUL LETTER YOcUbWEOcEbIcYU"]⟩,
  ⟨0xFFDA, ["aHALFWIDTH HANGUL LETTER EUcYIcI"]⟩,
  ⟨0xFFE0, ["aFULLWIDTH CENT SIGNjPOUND SIGNkNOT SIGNiMACRONgBROKEN BARkYEN SIGNiWON SIGN"]⟩,
  ⟨0xFFE8, [
    "aHALFWIDTH FORMS LIGHT VERTICALuLEFTWARDS ARROWpUPWARDS ARROWnRIGHTWARDS ARROWqDOWNWARDS ARROWpBLACK SQUAREm",
    "WHITE CIRCLE"]⟩,
  ⟨0xFFF9, [
    "aINTERLINEAR ANNOTATION ANCHORgSEPARATORjTERMINATORziOBJECT REPLACEMENT CHARACTERzdREPLACEMENT CHARACTER"]⟩]

end DomainPolicy.CharacterName
