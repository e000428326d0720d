import DomainPolicy.Text.CharacterName.Basic

/-!
# Names of characters, from U+1000 to U+1FFF

* The scripts of South East Asia, of Ethiopia and of America, and further letters of Europe.
-/

namespace DomainPolicy.CharacterName

/-- The names of the characters from U+1000 on. -/
def east : List Block := [
  ⟨0x1000, [
    "aMYANMAR LETTER KAbHAdGAbHAdNGAdCAbHAdJAbHAdNYAcNYAeTTAbHAeDDAbHAeNNAdTAbHAdDAbHAdNAcPAbHAdBAbHAdMAcYAcRAcLA",
    "cWAcSAcHAcLLAdAbSHAN AgIaIcUaUcEbMON EfObAUjVOWEL SIGN TALL AAhAAcIaIcUaUcEbAIcMON IIcOfE ABOVEsSIGN ANUSVAR",
    "AiDOT BELOWjVISARGAfRAMAgASATjCONSONANT SIGN MEDIAL YAcRAcWAcHAyLETTER GREAT SApDIGIT ZEROeONEdTWOcHREEfFOUR",
    "dIVEeSIXcEVENfEIGHTfNINEkSIGN LITTLE SECTIONoSECTIONlYMBOL LOCATIVEiCOMPLETEDjAFOREMENTIONEDoGENITIVEpLETTER",
    " SHAcSAdVOCALIC RaRcLaLrVOWEL SIGN VOCALIC RaRcLaLvLETTER MON NGAdJHAdBBAbEoCONSONANT SIGN MON MEDIAL NAcMAc",
    "LAzdLETTER SGAW KAREN SHAvVOWEL SIGN SGAW KAREN EUyTONE MARK SGAW KAREN HATHIfKE PHOzcLETTER WESTERN PWO KAR",
    "EN THAdPWAzdVOWEL SIGN WESTERN PWO KAREN EUcUEzgSIGN WESTERN PWO KAREN TONE-1b2b3b4b5zeLETTER EASTERN PWO KA",
    "REN NNAdYWAdGHWAzeVOWEL SIGN GEBA KAREN ImKAYAH OEcUbEEtLETTER SHAN KAbHAdGAcCAcZAcNYAdDAcNAcPHAdFAcBAcTHAdH",
    "AoCONSONANT SIGN SHAN MEDIAL WAzeVOWEL SIGN SHAN AAcEa ABOVEhFINAL YxSIGN SHAN TONE-2b3b5b6gCOUNCIL TONE-2b3",
    "gEMPHATIC TONEzgLETTER RUMAI PALAUNG FAxSIGN RUMAI PALAUNG TONE-5yHAN DIGIT ZEROeONEdTWOcHREEfFOURdIVEeSIXcE",
    "VENfEIGHTfNINEoIGN KHAMTI TONE-1b3sVOWEL SIGN AITON AaItSYMBOL SHAN ONEdEXCLAMATIONzgGEORGIAN CAPITAL LETTER",
    " ANcBANdGANdDONdENcVINdZENdTANdINcKANdLASdMANdNARdONcPARdZHAReRAEdSANdTARdUNcPHAReKHAReGHANeQARdSHINeCHINdAN",
    "dJILdCILcHAReXANdJHANeHAEcEbIEdWEcHARcOE"]⟩,
  ⟨0x10C7, ["aGEORGIAN CAPITAL LETTER YN"]⟩,
  ⟨0x10CD, ["aGEORGIAN CAPITAL LETTER AEN"]⟩,
  ⟨0x10D0, [
    "aGEORGIAN LETTER ANcBANdGANdDONdENcVINdZENdTANdINcKANdLASdMANdNARdONcPARdZHAReRAEdSANdTARdUNcPHAReKHAReGHANe",
    "QARdSHINeCHINdANdJILdCILcHAReXANdJHANeHAEcEbIEdWEcHARcOEdFIcYNcELIFIfTURNED GANkAINkPARAGRAPH SEPARATORzdMOD",
    "IFIER LETTER GEORGIAN NARzdGEORGIAN LETTER AENdHARD SIGNjLABIAL SIGNzcHANGUL CHOSEONG KIYEOKgSSANGKIYEOKlNIE",
    "UNfTIKEUTgSSANGTIKEUTlRIEULfMIEUMfPIEUPfSSANGPIEUPjIOSdSANGSIOSjIEUNGfCIEUCfSSANGCIEUCkCHIEUCHhKHIEUKHhTHIEU",
    "THhPHIEUPHhHIEUHfNIEUN-KIYEOKmSSANGNIEUNkNIEUN-TIKEUTgPIEUPlTIKEUT-KIYEOKnRIEUL-NIEUNlSSANGRIEULkRIEUL-HIEUH",
    "lKAPYEOUNRIEULnMIEUM-PIEUPlKAPYEOUNMIEUMnPIEUP-KIYEOKgNIEUNfTIKEUTgSIOSa-KIYEOKgTIKEUTgPIEUPjSANGSIOSiIOS-CI",
    "EUCkCIEUCeHIEUCHhTHIEUTHhPHIEUPHnKAPYEOUNPIEUPfSSANGPIEUPsSIOS-KIYEOKgNIEUNfTIKEUTgRIEULfMIEUMfPIEUPa-KIYEOK",
    "mSSANGSIOSjIEUNGfCIEUCeHIEUCHhKHIEUKHhTHIEUTHhPHIEUPHhHIEUHkCHITUEUMSIOSdSANGSIOSqEONGCHIEUMSIOSdSANGSIOSuPA",
    "NSIOShIEUNG-KIYEOKgTIKEUTgMIEUMfPIEUPfSIOSePANSIOSnSSANGIEUNGkIEUNG-CIEUCeHIEUCHhTHIEUTHhPHIEUPHnYESIEUNGiCI",
    "EUC-IEUNGkHITUEUMCIEUCfSSANGCIEUCrEONGCHIEUMCIEUCfSSANGCIEUCuHIEUCH-KHIEUKHhHIEUHkTUEUMCHIEUCHoEONGCHIEUMCHI",
    "EUCHsPHIEUPH-PIEUPnKAPYEOUNPHIEUPHpSSANGHIEUHkYEORINHIEUHlKIYEOK-TIKEUTnNIEUN-SIOSeCIEUCfHIEUHlTIKEUT-RIEULm",
    "FILLERpJUNGSEONG FILLERgAaEcYAaEdEOcEbYEOcEcObWAaEdOEcYOcUbWEOcEbIcYUcEUcYIcIbA-ObUdYA-ObYOfEO-ObUbEUfYEO-Ob",
    "UfO-EOcEbYEcObUdYO-YAaEcEOdObIeU-AaEcEO-EUfYEcUdYU-AbEOcEbYEOcEcUbIeEU-UbEUfYI-UeI-AbYAcObUbEUcARAEAhARAEAa-",
    "EOcUbIhSSANGARAEAkA-EUeYA-UdEO-YAgO-YAaEoONGSEONG KIYEOKgSSANGKIYEOKlKIYEOK-SIOSlNIEUNa-CIEUCfHIEUHlTIKEUTgR",
    "IEULa-KIYEOKgMIEUMfPIEUPfSIOSeTHIEUTHhPHIEUPHhHIEUHlMIEUMfPIEUPa-SIOSkSIOSdSANGSIOSjIEUNGfCIEUCeHIEUCHhKHIEU",
    "KHhTHIEUTHhPHIEUPHhHIEUHfKIYEOK-RIEULfSIOS-KIYEOKsNIEUN-KIYEOKgTIKEUTgSIOSePANSIOShTHIEUTHnTIKEUT-KIYEOKgRIE",
    "ULmRIEUL-KIYEOK-SIOSlNIEUNfTIKEUTa-HIEUHsSSANGRIEULkRIEUL-MIEUM-KIYEOKgSIOSkPIEUP-SIOSeHIEUHlKAPYEOUNPIEUPnS",
    "SANGSIOSjPANSIOShKHIEUKHhYEORINHIEUHrMIEUM-KIYEOKgRIEULfPIEUPfSIOSdSANGSIOSjPANSIOShCHIEUCHhHIEUHlKAPYEOUNMI",
    "EUMnPIEUP-RIEULfPHIEUPHhHIEUHlKAPYEOUNPIEUPnSIOS-KIYEOKgTIKEUTgRIEULfPIEUPkPANSIOShIEUNG-KIYEOKgSSANGKIYEOKr",
    "SSANGIEUNGkIEUNG-KHIEUKHnYESIEUNGa-SIOSePANSIOSqPHIEUPH-PIEUPnKAPYEOUNPHIEUPHpHIEUH-NIEUNfRIEULfMIEUMfPIEUPl",
    "YEORINHIEUHlKIYEOK-NIEUNfPIEUPfCHIEUCHhKHIEUKHhHIEUHmSSANGNIEUNzcETHIOPIC SYLLABLE HAbUbIbAAcEEcEbOaAdLAbUbI",
    "bAAcEEcEbObWAdHHAbUbIbAAcEEcEbObWAeMAbUbIbAAcEEcEbObWAdSZAbUbIbAAcEEcEbObWAeRAbUbIbAAcEEcEbObWAdSAbUbIbAAcEE",
    "cEbObWAcHAbUbIbAAcEEcEbObWAeQAbUbIbAAcEEcEbOaAcWA"]⟩,
  ⟨0x124A, ["aETHIOPIC SYLLABLE QWIbAAcEEcE"]⟩,
  ⟨0x1250, ["aETHIOPIC SYLLABLE QHAbUbIbAAcEEcEbO"]⟩,
  ⟨0x1258, ["aETHIOPIC SYLLABLE QHWA"]⟩,
  ⟨0x125A, ["aETHIOPIC SYLLABLE QHWIbAAcEEcE"]⟩,
  ⟨0x1260, [
    "aETHIOPIC SYLLABLE BAbUbIbAAcEEcEbObWAdVAbUbIbAAcEEcEbObWAdTAbUbIbAAcEEcEbObWAdCAbUbIbAAcEEcEbObWAdXAbUbIbAA",
    "cEEcEbOaAcWA"]⟩,
  ⟨0x128A, ["aETHIOPIC SYLLABLE XWIbAAcEEcE"]⟩,
  ⟨0x1290, [
    "aETHIOPIC SYLLABLE NAbUbIbAAcEEcEbObWAcYAbUbIbAAcEEcEbObWAeGLOTTAL AbUbIbAAcEEcEbObWAkKAbUbIbAAcEEcEbOaAcWA"]⟩,
  ⟨0x12B2, ["aETHIOPIC SYLLABLE KWIbAAcEEcE"]⟩,
  ⟨0x12B8, ["aETHIOPIC SYLLABLE KXAbUbIbAAcEEcEbO"]⟩,
  ⟨0x12C0, ["aETHIOPIC SYLLABLE KXWA"]⟩,
  ⟨0x12C2, ["aETHIOPIC SYLLABLE KXWIbAAcEEcE"]⟩,
  ⟨0x12C8, ["aETHIOPIC SYLLABLE WAbUbIbAAcEEcEbOaAdPHARYNGEAL AbUbIbAAcEEcEbO"]⟩,
  ⟨0x12D8, [
    "aETHIOPIC SYLLABLE ZAbUbIbAAcEEcEbObWAcHAbUbIbAAcEEcEbObWAeYAbUbIbAAcEEcEbOaAdDAbUbIbAAcEEcEbObWAcDAbUbIbAAc",
    "EEcEbObWAeJAbUbIbAAcEEcEbObWAdGAbUbIbAAcEEcEbOaAcWA"]⟩,
  ⟨0x1312, ["aETHIOPIC SYLLABLE GWIbAAcEEcE"]⟩,
  ⟨0x1318, [
    "aETHIOPIC SYLLABLE GGAbUbIbAAcEEcEbObWAAfTHAbUbIbAAcEEcEbObWAeCHAbUbIbAAcEEcEbObWAePHAbUbIbAAcEEcEbObWAeTSAb",
    "UbIbAAcEEcEbObWAdZAbUbIbAAcEEcEbOaAeFAbUbIbAAcEEcEbObWAdPAbUbIbAAcEEcEbObWAdRYAdMYAdFYA"]⟩,
  ⟨0x135D, [
    "aETHIOPIC COMBINING GEMINATION AND VOWEL LENGTH MARKzhVOWEL LENGTH MARKrGEMINATION MARKzaSECTION MARKmWORDSP",
    "ACEjFULL STOPjCOMMAfSEMICOLONjCOLONfPREFACE COLONnQUESTION MARKnPARAGRAPH SEPARATORtDIGIT ONEdTWOcHREEfFOURd",
    "IVEeSIXcEVENfEIGHTfNINEkNUMBER TENcWENTYfHIRTYgFORTYeIFTYfSIXTYeEVENTYhEIGHTYgNINETYgHUNDREDhTEN THOUSAND"]⟩,
  ⟨0x1380, [
    "aETHIOPIC SYLLABLE SEBATBEIT MWAnMWIbEEcEdSEBATBEIT BWAnBWIbEEcEdSEBATBEIT FWAnFWIbEEcEdSEBATBEIT PWAnPWIbEE",
    "cEmTONAL MARK YIZETfDERETfRIKRIKgSHORT RIKRIKmDIFATfKENATfCHIRETgHIDETfDERET-HIDETlKURT"]⟩,
  ⟨0x13A0, [
    "aCHEROKEE LETTER AbEbIbObUbVbGAcKAcGEbIbObUbVcHAbEbIbObUbVcLAbEbIbObUbVcMAbEbIbObUcNAcHNAdNAHcEbIbObUbVcQUAb",
    "EbIbObUbVdSAcSaEbIbObUbVcDAcTAcDEcTEcDIcTIcDObUbVbLAdTLAbEbIbObUbVcSAbEbIbObUbVdWAbEbIbObUbVcYAbEbIbObUbVcMV"]⟩,
  ⟨0x13F8, ["aCHEROKEE SMALL LETTER YEbIbObUbVcMV"]⟩,
  ⟨0x1400, [
    "aCANADIAN SYLLABICS HYPHENgEbAAIdIaIcOaOcY-CREE OOjCARRIER EEcIjAaAcWEaST-CREE WElIbEST-CREE WIlIIcEST-CREE ",
    "WIImObEST-CREE WOlOOcEST-CREE WOOnNASKAPI WOOlWAbEST-CREE WAlAAcEST-CREE WAAnNASKAPI WAAlAIcY-CREE WiGLOTTAL",
    " STOPmFINAL ACUTEfGRAVEfBOTTOM HALF RINGqTOP HALF RINGnRIGHT HALF RINGnNGeDOUBLE ACUTEfSHORT VERTICAL STROKE",
    "SzeMIDDLE DOTkSHORT HORIZONTAL STROKExPLUSeDOWN TACKpENcINcONcANcPEbAAIdIaIcOaOdY-CREE POOkCARRIER HEEcIkPAa",
    "AcWEdWEST-CREE PWEnPWIdWEST-CREE PWInPWIIeWEST-CREE PWIIoPWOdWEST-CREE PWOnPWOOeWEST-CREE PWOOoPWAdWEST-CREE",
    " PWAnPWAAeWEST-CREE PWAAoY-CREE PWAAlPbWEST-CREE PlCARRIER HjTEbAAIdIaIcOaOdY-CREE TOOkCARRIER DEEcIkTAaAcWE",
    "dWEST-CREE TWEnTWIdWEST-CREE TWInTWIIeWEST-CREE TWIIoTWOdWEST-CREE TWOnTWOOeWEST-CREE TWOOoTWAdWEST-CREE TWA",
    "nTWAAeWEST-CREE TWAAoNASKAPI TWAAmTaTEbIbObAdKEbAAIdIaIcOaOdY-CREE KOOkKAaAcWEdWEST-CREE KWEnKWIdWEST-CREE K",
    "WInKWIIeWEST-CREE KWIIoKWOdWEST-CREE KWOnKWOOeWEST-CREE KWOOoKWAdWEST-CREE KWAnKWAAeWEST-CREE KWAAoNASKAPI K",
    "WAAmKaWcSOUTH-SLAVEY KEHcIHcOHcAHqCEbAAIdIaIcOaOdY-CREE COOkCAaAcWEdWEST-CREE CWEnCWIdWEST-CREE CWInCWIIeWES",
    "T-CREE CWIIoCWOdWEST-CREE CWOnCWOOeWEST-CREE CWOOoCWAdWEST-CREE CWAnCWAAeWEST-CREE CWAAoNASKAPI CWAAmCbSAYIS",
    "I THjMEbAAIdIaIcOaOdY-CREE MOOkMAaAcWEdWEST-CREE MWEnMWIdWEST-CREE MWInMWIIeWEST-CREE MWIIoMWOdWEST-CREE MWO",
    "nMWOOeWEST-CREE MWOOoMWAdWEST-CREE MWAnMWAAeWEST-CREE MWAAoNASKAPI MWAAmMbWEST-CREE MlMHcATHAPASCAN MmSAYISI",
    " MiNEbAAIdIaIcOaOdY-CREE NOOkNAaAcWEdWEST-CREE NWEnNWAdWEST-CREE NWAnNWAAeWEST-CREE NWAAoNASKAPI NWAAmNbCARR",
    "IER NGkNHcLEbAAIdIaIcOaOdY-CREE LOOkLAaAcWEdWEST-CREE LWEnLWIdWEST-CREE LWInLWIIeWEST-CREE LWIIoLWOdWEST-CRE",
    "E LWOnLWOOeWEST-CREE LWOOoLWAdWEST-CREE LWAnLWAAeWEST-CREE LWAAoLbWEST-CREE LlMEDIAL LiSEbAAIdIaIcOaOdY-CREE",
    " SOOkSAaAcWEdWEST-CREE SWEnSWIdWEST-CREE SWInSWIIeWEST-CREE SWIIoSWOdWEST-CREE SWOnSWOOeWEST-CREE SWOOoSWAdW",
    "EST-CREE SWAnSWAAeWEST-CREE SWAAoNASKAPI SWAAmSbATHAPASCAN SmSWcBLACKFOOT SlMOOSE-CREE SKnNASKAPI SKWc-WcPWA",
    "dTWAdKWAdCWAmSHEbIaIcOaOcAaAcWEeWEST-CREE SHWEoSHWIeWEST-CREE SHWIoSHWIIfWEST-CREE SHWIIpSHWOeWEST-CREE SHWO",
    "oSHWOOfWEST-CREE SHWOOpSHWAeWEST-CREE SHWAoSHWAAfWEST-CREE SHWAApSHcYEbAAIdIaIcOaOc-CREE YOOjAaAcWEdWEST-CRE",
    "E YWEnYWIdWEST-CREE YWInYWIIeWEST-CREE YWIIoYWOdWEST-CREE YWOnYWOOeWEST-CREE YWOOoYWAdWEST-CREE YWAnYWAAeWES",
    "T-CREE YWAAoNASKAPI YWAAmYbBIBLE-CREE YmWEST-CREE YlSAYISI YIjREb-CREE REjWEST-CREE LEmRAAIdIaIcOaOdWEST-CRE",
    "E LOmRAaAdWEST-CREE LAmRWAAeWEST-CREE RWAAoRbWEST-CREE RlMEDIAL RiFEbAAIdIaIcOaOcAaAcWAAeWEST-CREE FWAAoFbTH",
    "EdN-CREE THEkTHIdN-CREE THIkTHIIeN-CREE THIIlTHOaOcAaAcWAAfWEST-CREE THWAApTHbTHEbIbObAcHcYEbIbObAdNUNAVIK H",
    "EbIaIcOaOcAaAdHeUT HjHKcQAAIdIaIcOaOcAaAdQbTLHEbIbObAeWEST-CREE REbIbObAmNGAAIdIaIcOaOcAaAdGbNGdSAYISI SHEbI",
    "bObAkWOODS-CREE THEbIbObAcHnLHIaIcOaOcAaAdHcTH-CREE THEbIaIcOaOcAaAdHkAIVILIK BjBLACKFOOT EbIbObAbWEbIbObAcN",
    "EbIbObAcKEbIbObAmSAYISI HEbIbObAjCARRIER GHUbObEaEcIbAdRUbObEaEcIbAcWUbObEaEcIbAcHWUbObEaEcIbAdTHUbObEaEcIbA",
    "cTUbObEaEcIbAdPUbObEaEcIbAcPbGUbObEaEcIbAcKHUbObEaEcIbAcKUbObEaEcIbAcKcNUbObEaEcIbAcMUbObEaEcIbAcYUbObEaEcIb",
    "AcJUkSAYISI JUjCARRIER JObEaEcIkSAYISI JIjCARRIER JAbJUbObEaEcIbAdLUbObEaEcIbAcDLUbObEaEcIbAdLHUbObEaEcIbAdT",
    "LHUbObEaEcIbAcUbObEaEcIbAdZUbObEaEcIbAcZbINITIAL ZjDZUbObEaEcIbAdSUbObEaEcIbAbHUbObEaEcIbAcHcTSUbObEaEcIbAdC",
    "HUbObEaEcIbAdTTSUbObEaEcIbAlHI SIGNiFULL STOPjQAIdNGAIdNGIaIcOaOcAaAfWOODS-CREE THWEEcIaIcOaOcAaAfFINAL THtB",
    "LACKFOOT WzfOGHAM SPACE MARKkLETTER BEITHfLUISeFEARNfSAILeNIONeUATHeDAIReTINNEfCOLLdEIRTfMUINeGORTeNGEADALhS",
    "TRAIFgRUISeAILMeONNdURcEADHADHhIODHADHhEABHADHhORcUILLEANNiIFINeEAMHANCHOLLlPEITHmFEATHER MARKmREVERSED FEAT",
    "HER MARK"]⟩,
  ⟨0x16A0, [
    "aRUNIC LETTER FEHU FEOH FE FoVbURUZ UR UjYRcYbWbTHURISAZ THURS THORNuETHdANSUZ AhOS OeAC AdESCeLONG-BRANCH-O",
    "SS OrSHORT-TWIG-OSS OqOaEbNcRAIDO RAD REID RqKAUNAfCENdKAUN KgGbENGdGEBO GYFU GkARdWUNJO WYNN WmHAGLAZ HgEGL",
    " HhLONG-BRANCH-HAGALL HuSHORT-TWIG-HAGALL HtNAUDIZ NYD NAUD NrSHORT-TWIG-NAUD NrDOTTED-NiISAZ IS ISS InEbJER",
    "AN JhGERdLONG-BRANCH-AR AErSHORT-TWIG-AR ApIWAZ EOHiPERTHO PEORTH PpALGIZ EOLHXlSOWILO ShIGEL LONG-BRANCH-SO",
    "L SwHORT-TWIG-SOL SqCbZbTIWAZ TIR TYR TpSHORT-TWIG-TYR TqDbBERKANAN BEORC BJARKAN BySHORT-TWIG-BJARKAN BuDOT",
    "TED-PiOPEN-PgEHWAZ EH EkMANNAZ MAN MmLONG-BRANCH-MADR MsSHORT-TWIG-MADR MrLAUKAZ LAGU LOGR LsDOTTED-LiINGWAZ",
    "eGdDAGAZ DAEG DmOTHALAN ETHEL OpEARdIORdCWEORTHgALCdEALCfSTANeLONG-BRANCH-YRoSHORT-TWIG-YRnICELANDIC-YRmQbXi",
    "SINGLE PUNCTUATIONsMULTIPLE PUNCTUATIONuCROSS PUNCTUATIONrARLAUG SYMBOLnTVIMADUR SYMBOLpBELGTHOR SYMBOLpLETT",
    "ER KbSHcOOcFRANKS CASKET OScIScEHcACbESC"]⟩,
  ⟨0x1700, [
    "aTAGALOG LETTER AbIbUbKAcGAcNGAdTAcDAcNAcPAcBAcMAcYAcRAcLAcWAcSAcHAjVOWEL SIGN IbUmSIGN VIRAMAgPAMUDPOD"]⟩,
  ⟨0x171F, [
    "aTAGALOG LETTER ARCHAIC RAzaHANUNOO LETTER AbIbUbKAcGAcNGAdTAcDAcNAcPAcBAcMAcYAcRAcLAcWAcSAcHAjVOWEL SIGN Ib",
    "UmSIGN PAMUDPODvPHILIPPINE SINGLE PUNCTUATIONsDOUBLE PUNCTUATION"]⟩,
  ⟨0x1740, ["aBUHID LETTER AbIbUbKAcGAcNGAdTAcDAcNAcPAcBAcMAcYAcRAcLAcWAcSAcHAjVOWEL SIGN IbU"]⟩,
  ⟨0x1760, ["aTAGBANWA LETTER AbIbUbKAcGAcNGAdTAcDAcNAcPAcBAcMAcYA"]⟩,
  ⟨0x176E, ["aTAGBANWA LETTER LAcWAcSA"]⟩,
  ⟨0x1772, ["aTAGBANWA VOWEL SIGN IbU"]⟩,
  ⟨0x1780, [
    "aKHMER LETTER KAbHAcObHOdNGOdCAbHAcObHOdNYOdDAcTTHAeDOcTTHOeNNOdTAbHAcObHOdNOcBAcPHAcObHOdMOcYOcROcLOcVOcSHA",
    "cSOcAcHAcLAcQAjINDEPENDENT VOWEL QAQbAcIaIcUaKbUaVeRYaYdLYaYdQEbAIcOO TYPE ONEdTWOlAUvVOWEL INHERENT AQbAlSI",
    "GN AAcIaIcYaYcUaUbAcOEcYAcIEcEbAEbIcOOcAUnSIGN NIKAHIThREAHMUKhYUUKALEAPINTUnMUUSIKATOANlTRIISAPhBANTOCgROBA",
    "TfTOANDAKHIATlKAKABAThAHSDAfSAMYOK SANNYAnVIRIAMgCOENGfBATHAMASATkKHANeBARIYOOSANkCAMNUC PII KUUHpLEK TOOhBE",
    "YYALgPHNAEK MUANlKOOMUUTmCURRENCY SYMBOL RIELuSIGN AVAKRAHASANYAmTTHACAN"]⟩,
  ⟨0x17E0, ["aKHMER DIGIT ZEROeONEdTWOcHREEfFOURdIVEeSIXcEVENfEIGHTfNINE"]⟩,
  ⟨0x17F0, ["aKHMER SYMBOL LEK ATTAK SONdMUOYePIIdBEIcUONePRAMa-MUOYePIIdBEIcUON"]⟩,
  ⟨0x1800, [
    "aMONGOLIAN BIRGAfELLIPSISiCOMMAfFULL STOPjCOLONfFOUR DOTSjTODO SOFT HYPHENqSIBE SYLLABLE BOUNDARY MARKERzeMA",
    "NCHU COMMAfFULL STOPqNIRUGUgFREE VARIATION SELECTOR ONEdTWOcHREEzeVOWEL SEPARATORpFREE VARIATION SELECTOR FO",
    "URzdDIGIT ZEROeONEdTWOcHREEfFOURdIVEeSIXcEVENfEIGHTfNINE"]⟩,
  ⟨0x1820, [
    "aMONGOLIAN LETTER AbEbIbObUbOEcUEcEEcNAcANGdBAcPAcQAcGAcMAcLAcSAbHAdTAcDAcCHAdJAcYAcRAcWAcFAcKAbHAdTSAdZAcHA",
    "AdZRAdLHAdZHIdCHIdTODO LONG VOWEL SIGNpEbIbObUbOEcUEcANGdBAcPAcQAcGAcMAcTAcDAcCHAdJAcTSAdYAcWAcKAcGAAdHAAdJI",
    "AdNIAdDZAiSIBE EbIaYcUEcUbANGdKAcGAcHAcPAcSHAdTAcDAcJAcFAcGAAdHAAdTSAdZAcRAAdCHAdZHAiMANCHU IbKAcRAcFAcZHAkC",
    "HA WITH TWO DOTS"]⟩,
  ⟨0x1880, [
    "aMONGOLIAN LETTER ALI GALI ANUSVARA ONEmVISARGA ONElDAMARUgUBADAMAhINVERTED UBADAMAqBALUDAgTHREE BALUDAmAbIb",
    "KAcNGAdCAcTTAbHAeDDAdNNAdTAcDAcPAbHAdSSAdZHAcAcAHlTODO ALI GALI TAcZHArMANCHU ALI GALI GHAdNGAdCAcJHAdTTAdDD",
    "HAeTAcDHAdSSAdCYAdZHAcAsALI GALI HALF UbYAqMANCHU ALI GALI BHAtALI GALI DAGALGAqMANCHU ALI GALI LHA"]⟩,
  ⟨0x18B0, [
    "aCANADIAN SYLLABICS OYcAYbAYdWAYdPOYcAYcWOYeTAYdKAYcWAYeMAYdNOYcAYdLAYdSOYcAYcHOYcAYcWOYfYOYcAYdRAYdNWIdOJIB",
    "WAY NWIlNWIIeOJIBWAY NWIImNWOdOJIBWAY NWOlNWOOeOJIBWAY NWOOmRWEEcIaIcOaOcAdOJIBWAY PbTbKbCbMbNbSaHkEASTERN W",
    "jWESTERN WjFINAL SMALL RINGkRAISED DOTqR-CREE RWEkWEST-CREE LOOcAAnTHWEbAdTHWEcOOcAAeLHWEcOOfSAYISI SHWEcOOe",
    "HOOkCARRIER GWUdDENE GEEiGAAcWAlSAYISI JUUkCARRIER JWAlBEAVER DENE LbRnCARRIER DENTAL S"]⟩,
  ⟨0x1900, [
    "aLIMBU VOWEL-CARRIER LETTERuLETTER KAbHAdGAbHAdNGAdCAbHAdJAbHAdYANdTAbHAdDAbHAdNAcPAbHAdBAbHAdMAcYAcRAcLAcWA",
    "cSHAcSAcAcHAcGYANeTRA"]⟩,
  ⟨0x1920, ["aLIMBU VOWEL SIGN AbIbUbEEcAIcOOcAUcEbOmSUBJOINED LETTER YAcRAcWA"]⟩,
  ⟨0x1930, ["aLIMBU SMALL LETTER KAcNGAdANUSVARAiTAcNAcPAcMAcRAcLAoIGN MUKPHRENGjKEMPHRENGjSA-I"]⟩,
  ⟨0x1940, ["aLIMBU SIGN LOO"]⟩,
  ⟨0x1944, [
    "aLIMBU EXCLAMATION MARKqQUESTION MARKnDIGIT ZEROeONEdTWOcHREEfFOURdIVEeSIXcEVENfEIGHTfNINEqTAI LE LETTER KAc",
    "XAcNGAdTSAdSAcYAcTAbHAdLAcPAbHAdMAcFAcVAcHAcQAcKHAdTSHAeNAcAbIbEEbHcUbOOcObUEcEbAUEcI"]⟩,
  ⟨0x1970, ["aTAI LE LETTER TONE-2b3b4b5b6"]⟩,
  ⟨0x1980, [
    "aNEW TAI LUE LETTER HIGH QAhLOW QAgHIGH KAcXAcNGAiLOW KAcXAcNGAhHIGH TSAdSAcYAhLOW TSAdSAcYAgHIGH TAbHAdNAhL",
    "OW TAbHAdNAgHIGH PAbHAdMAhLOW PAbHAdMAgHIGH FAcVAcLAhLOW FAcVAcLAgHIGH HAcDAcBAhLOW HAcDAcBAgHIGH KVAdXVAiLO",
    "W KVAdXVAhHIGH SUAiLOW SUA"]⟩,
  ⟨0x19B0, [
    "aNEW TAI LUE VOWEL SIGN VOWEL SHORTENERpAAcIIcUaUcEbAEcOaAcUEcAYbAYdUYcOYbAYdUEYdIYnLETTER FINAL VbNGcNbMbKb",
    "DbBoTONE MARK-1b2"]⟩,
  ⟨0x19D0, ["aNEW TAI LUE DIGIT ZEROeONEdTWOcHREEfFOURdIVEeSIXcEVENfEIGHTfNINEkTHAM DIGIT ONE"]⟩,
  ⟨0x19DE, [
    "aNEW TAI LUE SIGN LAEaVvKHMER SYMBOL PATHAMASATkMUOY KOETjPII KOETiBEI KOEThUON KOETjPRAM KOETf-MUOY KOETjPI",
    "I KOETiBEI KOEThUON KOEToDAP KOETf-MUOY KOETjPII KOETiBEI KOEThUON KOETjPRAM KOETnTUTEYASATjMUOY ROCiPII ROC",
    "hBEI ROCgUON ROCiPRAM ROCe-MUOY ROCiPII ROChBEI ROCgUON ROCnDAP ROCe-MUOY ROCiPII ROChBEI ROCgUON ROCiPRAM R",
    "OCzaBUGINESE LETTER KAcGAcNGAbKAePAcBAcMAbPAdTAcDAcNAbRAdCAcJAcNYAbCAeYAcRAcLAcVAcSAcAbHAjVOWEL SIGN IbUbEbO",
    "bAE"]⟩,
  ⟨0x1A1E, [
    "aBUGINESE PALLAWAhEND OF SECTIONxTAI THAM LETTER HIGH KAbHAcXAiLOW KAbXAcHAhNGAdHIGH CAbHAiLOW CAcSAcCHAhNYA",
    "dRATAeHIGH RATHAkDAcLOW RATHAjRANAeHIGH TAbHAiLOW TAbHAhNAcBAcHIGH PAbHAdFAhLOW PAcFAcPHAhMAcLOW YAgHIGH YAh",
    "RAbUEdLAbUEdWAcHIGH SHAcSAcAcHAhLLAdAbLOW HAgIaIcUaUcEEcOOcLAEdGREAT SApCONSONANT SIGN MEDIAL RAcLAjLA TANG ",
    "LAIzbSIGN MAI KANG LAIrCONSONANT SIGN FINAL NGAjLOW PAgHIGH RATHA OR LOW PAuMAcBAcSA"]⟩,
  ⟨0x1A60, [
    "aTAI THAM SIGN SAKOTkVOWEL SIGN AbMAI SAThAAcTALL AAhIaIcUEbUEdUaUcOaA BELOWhYcEbAEcOOcAIcTHAM AIhOA ABOVEtS",
    "IGN MAI KANGiTONE-1b2gKHUEN TONE-3b4b5mRA HAAMhMAI SAMhKHUEN-LUE KARAN"]⟩,
  ⟨0x1A7F, ["aTAI THAM COMBINING CRYPTOGRAMMIC DOTzcHORA DIGIT ZEROeONEdTWOcHREEfFOURdIVEeSIXcEVENfEIGHTfNINE"]⟩,
  ⟨0x1A90, ["aTAI THAM THAM DIGIT ZEROeONEdTWOcHREEfFOURdIVEeSIXcEVENfEIGHTfNINE"]⟩,
  ⟨0x1AA0, [
    "aTAI THAM SIGN WIANGaWAAKjSAWANfKEOWeHOYdDOKMAIgREVERSED ROTATED RANAvMAI YAMOKjKAANaKUUhSATKAANaKUUkHANGeCA",
    "ANG"]⟩,
  ⟨0x1AB0, [
    "aCOMBINING DOUBLED CIRCUMFLEX ACCENTyIAERESIS-RINGoINFINITYiDOWNWARDS ARROWpTRIPLE DOTkX-X BELOWjWIGGLY LINE",
    " BELOWrOPEN MARK BELOWpDOUBLE OPEN MARK BELOWwLIGHT CENTRALIZATION STROKE BELOWziSTRONG CENTRALIZATION STROK",
    "E BELOWzjPARENTHESES ABOVErDOUBLE PARENTHESES ABOVEyPARENTHESES BELOWfOVERLAYtLATIN SMALL LETTER W BELOWhTUR",
    "NED W BELOWzhEFT PARENTHESIS ABOVE LEFTzcRIGHT PARENTHESIS ABOVE RIGHTzeLEFT PARENTHESIS BELOW LEFTzcRIGHT P",
    "ARENTHESIS BELOW RIGHTzeSQUARE BRACKETS ABOVEvNUMBER SIGN ABOVErINVERTED DOUBLE ARCH ABOVEzbPLUS SIGN ABOVEp",
    "DOUBLE PLUS SIGN ABOVEfBELOWwTRIPLE ACUTE ACCENTtLATIN SMALL LETTER INSULAR GbRbT"]⟩,
  ⟨0x1B00, [
    "aBALINESE SIGN ULU RICEMfCANDRAkCECEKfSURANGgBISAHkLETTER AKARAa TEDUNGmIKARAa TEDUNGmUKARAa TEDUNGmRA REPAa",
    " TEDUNGoLA LENGAa TEDUNGpEKARAfAIKARAgOKARAa TEDUNGmKAa MAHAPRANAmGAa GORAhNGAdCAa LACAhJAa JERAhNYAdTA LATI",
    "KfMURDA MAHAPRANAsDA MURDA ALPAPRANAjMAHAPRANAsNA RAMBATjTAa TAWAhDAa MADUhNAcPAa KAPALiBAa KEMBANGkMAcYAcRA",
    "cLAcWAcSA SAGAcPAgAcHAjSIGN REREKANmVOWEL SIGN TEDUNGgULUa SARIiSUKUa ILUTjRA REPAa TEDUNGoLA LENGAa TEDUNGp",
    "TALINGa REPAeTEDUNGgREPA TEDUNGsPEPETa TEDUNGxADEG ADEGjLETTER KAF SASAKiHOT SASAKkTZIR SASAKkEF SASAKiVE SA",
    "SAKiZAL SASAKjASYURA SASAKlRCHAIC JNYA"]⟩,
  ⟨0x1B50, [
    "aBALINESE DIGIT ZEROeONEdTWOcHREEfFOURdIVEeSIXcEVENfEIGHTfNINEkPANTIdMADAgWINDUfCARIK PAMUNGKAHjSIKIePAREREN",
    "nPAMENENGiMUSICAL SYMBOL DONGdENGdUNGdANGa SURANGkINGdAENGeEUNGeAINGdNG GEDEjCOMBINING TEGEHfENDEPfKEMPULcLI",
    "gJEGOGANhKEMPUL WITH JEGOGANpLI WITH JEGOGANtBENDEfGONGoRIGHT-HAND OPEN DUGcAGiCLOSED TUKcAKvLEFT-HAND OPEN ",
    "PANGdUNGjCLOSED PLAKcUKlOPEN PINGzjPANTI LANTANGlMADA LANTANG"]⟩,
  ⟨0x1B80, [
    "aSUNDANESE SIGN PANYECEKfGLAYARfWISADoLETTER AbIbUbAEcObEaUcKAcQAcGAcNGAdCAcJAcZAcNYAdTAcDAcNAcPAcFAcVAcBAcM",
    "AcYAcRAcLAcWAcSAcXAcHAjCONSONANT SIGN PAMINGKALhNYAKRAeIKUwVOWEL SIGN PANGHULUfYUKUeAELAENGhOLONGgMEPETfNEUL",
    "EUNGvSIGN PAMAAEHhVIRAMAlCONSONANT SIGN PASANGAN MAcWAzbLETTER KHAdSYAkDIGIT ZEROeONEdTWOcHREEfFOURdIVEeSIXc",
    "EVENfEIGHTfNINEkAVAGRAHAiLETTER REUdLEUdBHAdFINAL KbMyBATAK LETTER AbSIMALUNGUN AmHAcSIMALUNGUN HAnMANDAILIN",
    "G HAnBAcKARO BAhPAcSIMALUNGUN PAnNAcMANDAILING NAnWAcSIMALUNGUN WAnPAKPAK WAjGAcSIMALUNGUN GAnJAcDAcRAcSIMAL",
    "UNGUN RAnMAcSIMALUNGUN MAmOUTHERN TAlNORTHERN TAlSAbIMALUNGUN SAnMANDAILING SAnYAcSIMALUNGUN YAnNGAdLAcSIMAL",
    "UNGUN LAnNYAdCAcNDAdMBAdIbUiSIGN TOMPIkVOWEL SIGN EbPAKPAK EiEEcIbKARO IgObKARO OgUa FOR SIMALUNGUN SAzfCONS",
    "ONANT SIGN NGcHqPANGOLATfONGONAN"]⟩,
  ⟨0x1BFC, [
    "aBATAK SYMBOL BINDU NA METEKiPINARBORASkJUDULfPANGOLATzcLEPCHA LETTER KAbLAcHAdGAbLAdNGAdCAbHAdJAcNYAdTAbHAd",
    "DAcNAcPAbLAcHAdFAbLAdBAbLAdMAbLAdTSAbHAeDZAdYAcRAcLAcHAbLAdVAcSAbHAdWAcAiSUBJOINED LETTER YAcRAtVOWEL SIGN A",
    "AcIbOaOcUaUcEmCONSONANT SIGN KbMbLbNbPbRbTbNYIN-DOhKANGtSIGN RANdNUKTA"]⟩,
  ⟨0x1C3B, [
    "aLEPCHA PUNCTUATION TA-ROLgNYET THYOOM TA-ROLsCER-WAgTSHOOK CER-WAiKsDIGIT ZEROeONEdTWOcHREEfFOURdIVEeSIXcEV",
    "ENfEIGHTfNINE"]⟩,
  ⟨0x1C4D, [
    "aLEPCHA LETTER TTAbHAeDDArOL CHIKI DIGIT ZEROeONEdTWOcHREEfFOURdIVEeSIXcEVENfEIGHTfNINEkLETTER LAcATbGbNGcLc",
    "LAAdAAKbJbMbWdLIcISbHbNYcRcLUcUCbDbNNcYcLEcEPbDDcNbRRdLOcOTTcBbVbHjMU TTUDDAGkGAAHLAA TTUDDAAGqMU-GAAHLAA TT",
    "UDDAAGtRELAAfPHAARKAAiAHADePUNCTUATION MUCAADgDOUBLE MUCAADzjCYRILLIC SMALL LETTER ROUNDED VEkLONG-LEGGED DE",
    "oNARROW OiWIDE EShTALL TEgHREE-LEGGED TEoALL HARD SIGNjYATiUNBLENDED UK"]⟩,
  ⟨0x1C90, [
    "aGEORGIAN MTAVRULI CAPITAL LETTER ANcBANdGANdDONdENcVINdZENdTANdINcKANdLASdMANdNARdONcPARdZHAReRAEdSANdTARdU",
    "NcPHAReKHAReGHANeQARdSHINeCHINdANdJILdCILcHAReXANdJHANeHAEcEbIEdWEcHARcOEdFIcYNcELIFIfTURNED GANkAIN"]⟩,
  ⟨0x1CBD, [
    "aGEORGIAN MTAVRULI CAPITAL LETTER AENdHARD SIGNjLABIAL SIGNztSUNDANESE PUNCTUATION BINDU SURYAfPANGLONGhURNA",
    "MAhCAKRAfLEU SATANGAlKA SATANGAkDA SATANGAkBA SATANGA"]⟩,
  ⟨0x1CD0, [
    "aVEDIC TONE KARSHANAiSHARAfPRENKHAmSIGN NIHSHVASAjYAJURVEDIC MIDLINE SVARITAzgTONE YAJURVEDIC AGGRAVATED IND",
    "EPENDENT SVARITAzfINDEPENDENT SVARITAtKATHAKA INDEPENDENT SVARITAznCANDRA BELOWmYAJURVEDIC KATHAKA INDEPENDE",
    "NT SVARITA SCHROEDERzxDOUBLE SVARITAoTRIPLE SVARITAoKATHAKA ANUDATTAqDOT BELOWjTWO DOTS BELOWnHREE DOTS BELO",
    "WqRIGVEDIC KASHMIRI INDEPENDENT SVARITAzmATHARVAVEDIC INDEPENDENT SVARITAzmSIGN VISARGA SVARITAhUDATTAoREVER",
    "SED VISARGA UDATTAxVISARGA ANUDATTAqREVERSED VISARGA ANUDATTAzaVISARGA UDATTA WITH TAILqANUDATTA WITH TAILzb",
    "ANUSVARA ANTARGOMUKHAmBAHIRGOMUKHAmVAMAGOMUKHAa WITH TAILzfTIRYAKgHEXIFORM LONG ANUSVARAwLONG ANUSVARAnRTHAN",
    "G LONG ANUSVARAuANUSVARA UBHAYATO MUKHAwRDHAVISARGAmROTATED ARDHAVISARGAzaTONE CANDRA ABOVErSIGN JIHVAMULIYA",
    "lUPADHMANIYAlATIKRAMAnTONE RING ABOVEkDOUBLE RING ABOVEwSIGN DOUBLE ANUSVARA ANTARGOMUKHA"]⟩,
  ⟨0x1D00, [
    "aLATIN LETTER SMALL CAPITAL AaExSMALL LETTER TURNED AEwLETTER SMALL CAPITAL BARRED BiCbDbETHdEwSMALL LETTER ",
    "TURNED OPEN EgIvLETTER SMALL CAPITAL JbKbL WITH STROKEnMbREVERSED NkOaPEN OzcSMALL LETTER SIDEWAYS OaPEN Of ",
    "WITH STROKEwTURNED OEwLETTER SMALL CAPITAL OUxSMALL LETTER TOP HALF OkBOTTOM HALF OzbLETTER SMALL CAPITAL Pb",
    "REVERSED RkTURNED RiTbUwSMALL LETTER SIDEWAYS UbDIAERESIZED UnTURNED MzfLETTER SMALL CAPITAL VbWbZbEZHrVOICE",
    "D LARYNGEAL SPIRANTyAINqGREEK LETTER SMALL CAPITAL GAMMAfLAMDAfPIcRHOdPSIzfCYRILLIC LETTER SMALL CAPITAL ELz",
    "hMODIFIER LETTER CAPITAL AaEcBaARRED BiDbEbREVERSED EkGbHbIbJbKbLbMbNbREVERSED NkOaUcPbRbTbUbWjSMALL AbTURNE",
    "D AiALPHAfTURNED AEjBbDbEbSCHWAfOPEN EgTURNED OPEN EnGbTURNED IiKbMbENGdOaPEN OgTOP HALF OkBOTTOM HALF OnPbT",
    "bUbSIDEWAYS UkTURNED MiVbAINdBETAeGREEK GAMMAlDELTAfGREEK PHIjCHIzaLATIN SUBSCRIPT SMALL LETTER IbRbUbVzfGRE",
    "EK SUBSCRIPT SMALL LETTER BETAeGAMMAfRHOdPHIdCHIzhLATIN SMALL LETTER UEcB WITH MIDDLE TILDEtD WITH MIDDLE TI",
    "LDEtF WITH MIDDLE TILDEtM WITH MIDDLE TILDEtN WITH MIDDLE TILDEtP WITH MIDDLE TILDEtR WITH MIDDLE TILDEmFISH",
    "HOOK AND MIDDLE TILDEzhS WITH MIDDLE TILDEtT WITH MIDDLE TILDEtZ WITH MIDDLE TILDEtTURNED GzcMODIFIER LETTER",
    " CYRILLIC ENzcLATIN SMALL LETTER INSULAR GjTH WITH STRIKETHROUGHzdCAPITAL LETTER I WITH STROKEzdLETTER IOTA ",
    "WITH STROKEqP WITH STROKEuCAPITAL LETTER U WITH STROKEzdLETTER UPSILON WITH STROKEtB WITH PALATAL HOOKtD WIT",
    "H PALATAL HOOKtF WITH PALATAL HOOKtG WITH PALATAL HOOKtK WITH PALATAL HOOKtL WITH PALATAL HOOKtM WITH PALATA",
    "L HOOKtN WITH PALATAL HOOKtP WITH PALATAL HOOKtR WITH PALATAL HOOKtS WITH PALATAL HOOKtESH WITH PALATAL HOOK",
    "vV WITH PALATAL HOOKtX WITH PALATAL HOOKtZ WITH PALATAL HOOKtA WITH RETROFLEX HOOKuLPHA WITH RETROFLEX HOOKz",
    "aD WITH HOOK AND TAILuE WITH RETROFLEX HOOKvOPEN E WITH RETROFLEX HOOKzbREVERSED OPEN E WITH RETROFLEX HOOKz",
    "kSCHWA WITH RETROFLEX HOOKzaI WITH RETROFLEX HOOKvOPEN O WITH RETROFLEX HOOKzbESH WITH RETROFLEX HOOKxU WITH",
    " RETROFLEX HOOKvEZH WITH RETROFLEX HOOKzrMODIFIER LETTER SMALL TURNED ALPHAmCa WITH CURLlETHdREVERSED OPEN E",
    "pFbDOTLESS J WITH STROKEvSCRIPT GiTURNED HiI WITH STROKEmOTAeCAPITAL Ia WITH STROKEvJ WITH CROSSED-TAILtL WI",
    "TH RETROFLEX HOOKoPALATAL HOOKtCAPITAL LjM WITH HOOKlTURNED M WITH LONG LEGwN WITH LEFT HOOKjRETROFLEX HOOKv",
    "CAPITAL NjBARRED OiPHIdS WITH HOOKlESHdT WITH PALATAL HOOKtU BARePSILONhCAPITAL UjV WITH HOOKlTURNED ViZa WI",
    "TH RETROFLEX HOOKoCURLlEZHdTHETAzcCOMBINING DOTTED GRAVE ACCENTmACUTE ACCENTtSNAKE BELOWkUSPENSION MARKpMACR",
    "ON-ACUTEmGRAVE-MACRONmMACRON-GRAVEmACUTE-MACRONmGRAVE-ACUTE-GRAVErACUTE-GRAVE-ACUTErLATIN SMALL LETTER R BEL",
    "OWzbBREVE-MACRONmMACRON-BREVEmDOUBLE CIRCUMFLEX ABOVExOGONEK ABOVEmZIGZAG BELOWmIS BELOWiUR ABOVEhS ABOVEiLA",
    "TIN SMALL LETTER FLATTENED OPEN A ABOVEwAEbObVcC CEDILLAjINSULAR DjETHdGoLETTER SMALL CAPITAL GwSMALL LETTER",
    " KbLoLETTER SMALL CAPITAL LbMwSMALL LETTER NoLETTER SMALL CAPITAL NbRwSMALL LETTER R ROTUNDAjSbLONG SgZbALPH",
    "AfBaETAeSCHWAfFbL WITH DOUBLE MIDDLE TILDEzbO WITH LIGHT CENTRALIZATION STROKEzjPbESHdU WITH LIGHT CENTRALIZ",
    "ATION STROKEzjWbA WITH DIAERESISqO WITH DIAERESISqU WITH DIAERESISzkUP TACK ABOVEnKAVYKA ABOVE RIGHTfLEFTrDO",
    "T ABOVE LEFToWIDE INVERTED BRIDGE BELOWzbDOT BELOW LEFTnELETION MARKmOUBLE INVERTED BREVE BELOWzcALMOST EQUA",
    "L TO BELOWvLEFT ARROWHEAD ABOVEuRIGHT ARROWHEAD AND DOWN ARROWHEAD BELOWzzaLATIN CAPITAL LETTER A WITH RING ",
    "BELOWzhSMALL LETTER A WITH RING BELOWzfCAPITAL LETTER B WITH DOT ABOVEzgSMALL LETTER B WITH DOT ABOVEzeCAPIT",
    "AL LETTER B WITH DOT BELOWzgSMALL LETTER B WITH DOT BELOWzeCAPITAL LETTER B WITH LINE BELOWzhSMALL LETTER B ",
    "WITH LINE BELOWzfCAPITAL LETTER C WITH CEDILLA AND ACUTEzoSMALL LETTER C WITH CEDILLA AND ACUTEzmCAPITAL LET",
    "TER D WITH DOT ABOVEzgSMALL LETTER D WITH DOT ABOVEzeCAPITAL LETTER D WITH DOT BELOWzgSMALL LETTER D WITH DO",
    "T BELOWzeCAPITAL LETTER D WITH LINE BELOWzhSMALL LETTER D WITH LINE BELOWzfCAPITAL LETTER D WITH CEDILLAzeSM",
    "ALL LETTER D WITH CEDILLAzcCAPITAL LETTER D WITH CIRCUMFLEX BELOWznSMALL LETTER D WITH CIRCUMFLEX BELOWzlCAP",
    "ITAL LETTER E WITH MACRON AND GRAVEznSMALL LETTER E WITH MACRON AND GRAVEzlCAPITAL LETTER E WITH MACRON AND ",
    "ACUTEznSMALL LETTER E WITH MACRON AND ACUTEzlCAPITAL LETTER E WITH CIRCUMFLEX BELOWznSMALL LETTER E WITH CIR",
    "CUMFLEX BELOWzlCAPITAL LETTER E WITH TILDE BELOWziSMALL LETTER E WITH TILDE BELOWzgCAPITAL LETTER E WITH CED",
    "ILLA AND BREVEzoSMALL LETTER E WITH CEDILLA AND BREVEzmCAPITAL LETTER F WITH DOT ABOVEzgSMALL LETTER F WITH ",
    "DOT ABOVEzeCAPITAL LETTER G WITH MACRONzdSMALL LETTER G WITH MACRONzbCAPITAL LETTER H WITH DOT ABOVEzgSMALL ",
    "LETTER H WITH DOT ABOVEzeCAPITAL LETTER H WITH DOT BELOWzgSMALL LETTER H WITH DOT BELOWzeCAPITAL LETTER H WI",
    "TH DIAERESISzgSMALL LETTER H WITH DIAERESISzeCAPITAL LETTER H WITH CEDILLAzeSMALL LETTER H WITH CEDILLAzcCAP",
    "ITAL LETTER H WITH BREVE BELOWziSMALL LETTER H WITH BREVE BELOWzgCAPITAL LETTER I WITH TILDE BELOWziSMALL LE",
    "TTER I WITH TILDE BELOWzgCAPITAL LETTER I WITH DIAERESIS AND ACUTEzqSMALL LETTER I WITH DIAERESIS AND ACUTEz",
    "oCAPITAL LETTER K WITH ACUTEzcSMALL LETTER K WITH ACUTEzaCAPITAL LETTER K WITH DOT BELOWzgSMALL LETTER K WIT",
    "H DOT BELOWzeCAPITAL LETTER K WITH LINE BELOWzhSMALL LETTER K WITH LINE BELOWzfCAPITAL LETTER L WITH DOT BEL",
    "OWzgSMALL LETTER L WITH DOT BELOWzeCAPITAL LETTER L WITH DOT BELOW AND MACRONzrSMALL LETTER L WITH DOT BELOW",
    " AND MACRONzpCAPITAL LETTER L WITH LINE BELOWzhSMALL LETTER L WITH LINE BELOWzfCAPITAL LETTER L WITH CIRCUMF",
    "LEX BELOWznSMALL LETTER L WITH CIRCUMFLEX BELOWzlCAPITAL LETTER M WITH ACUTEzcSMALL LETTER M WITH ACUTEzaCAP",
    "ITAL LETTER M WITH DOT ABOVEzgSMALL LETTER M WITH DOT ABOVEzeCAPITAL LETTER M WITH DOT BELOWzgSMALL LETTER M",
    " WITH DOT BELOWzeCAPITAL LETTER N WITH DOT ABOVEzgSMALL LETTER N WITH DOT ABOVEzeCAPITAL LETTER N WITH DOT B",
    "ELOWzgSMALL LETTER N WITH DOT BELOWzeCAPITAL LETTER N WITH LINE BELOWzhSMALL LETTER N WITH LINE BELOWzfCAPIT",
    "AL LETTER N WITH CIRCUMFLEX BELOWznSMALL LETTER N WITH CIRCUMFLEX BELOWzlCAPITAL LETTER O WITH TILDE AND ACU",
    "TEzmSMALL LETTER O WITH TILDE AND ACUTEzkCAPITAL LETTER O WITH TILDE AND DIAERESISzqSMALL LETTER O WITH TILD",
    "E AND DIAERESISzoCAPITAL LETTER O WITH MACRON AND GRAVEznSMALL LETTER O WITH MACRON AND GRAVEzlCAPITAL LETTE",
    "R O WITH MACRON AND ACUTEznSMALL LETTER O WITH MACRON AND ACUTEzlCAPITAL LETTER P WITH ACUTEzcSMALL LETTER P",
    " WITH ACUTEzaCAPITAL LETTER P WITH DOT ABOVEzgSMALL LETTER P WITH DOT ABOVEzeCAPITAL LETTER R WITH DOT ABOVE",
    "zgSMALL LETTER R WITH DOT ABOVEzeCAPITAL LETTER R WITH DOT BELOWzgSMALL LETTER R WITH DOT BELOWzeCAPITAL LET",
    "TER R WITH DOT BELOW AND MACRONzrSMALL LETTER R WITH DOT BELOW AND MACRONzpCAPITAL LETTER R WITH LINE BELOWz",
    "hSMALL LETTER R WITH LINE BELOWzfCAPITAL LETTER S WITH DOT ABOVEzgSMALL LETTER S WITH DOT ABOVEzeCAPITAL LET",
    "TER S WITH DOT BELOWzgSMALL LETTER S WITH DOT BELOWzeCAPITAL LETTER S WITH ACUTE AND DOT ABOVEzqSMALL LETTER",
    " S WITH ACUTE AND DOT ABOVEzoCAPITAL LETTER S WITH CARON AND DOT ABOVEzqSMALL LETTER S WITH CARON AND DOT AB",
    "OVEzoCAPITAL LETTER S WITH DOT BELOW AND DOT ABOVEzuSMALL LETTER S WITH DOT BELOW AND DOT ABOVEzsCAPITAL LET",
    "TER T WITH DOT ABOVEzgSMALL LETTER T WITH DOT ABOVEzeCAPITAL LETTER T WITH DOT BELOWzgSMALL LETTER T WITH DO",
    "T BELOWzeCAPITAL LETTER T WITH LINE BELOWzhSMALL LETTER T WITH LINE BELOWzfCAPITAL LETTER T WITH CIRCUMFLEX ",
    "BELOWznSMALL LETTER T WITH CIRCUMFLEX BELOWzlCAPITAL LETTER U WITH DIAERESIS BELOWzmSMALL LETTER U WITH DIAE",
    "RESIS BELOWzkCAPITAL LETTER U WITH TILDE BELOWziSMALL LETTER U WITH TILDE BELOWzgCAPITAL LETTER U WITH CIRCU",
    "MFLEX BELOWznSMALL LETTER U WITH CIRCUMFLEX BELOWzlCAPITAL LETTER U WITH TILDE AND ACUTEzmSMALL LETTER U WIT",
    "H TILDE AND ACUTEzkCAPITAL LETTER U WITH MACRON AND DIAERESISzrSMALL LETTER U WITH MACRON AND DIAERESISzpCAP",
    "ITAL LETTER V WITH TILDEzcSMALL LETTER V WITH TILDEzaCAPITAL LETTER V WITH DOT BELOWzgSMALL LETTER V WITH DO",
    "T BELOWzeCAPITAL LETTER W WITH GRAVEzcSMALL LETTER W WITH GRAVEzaCAPITAL LETTER W WITH ACUTEzcSMALL LETTER W",
    " WITH ACUTEzaCAPITAL LETTER W WITH DIAERESISzgSMALL LETTER W WITH DIAERESISzeCAPITAL LETTER W WITH DOT ABOVE",
    "zgSMALL LETTER W WITH DOT ABOVEzeCAPITAL LETTER W WITH DOT BELOWzgSMALL LETTER W WITH DOT BELOWzeCAPITAL LET",
    "TER X WITH DOT ABOVEzgSMALL LETTER X WITH DOT ABOVEzeCAPITAL LETTER X WITH DIAERESISzgSMALL LETTER X WITH DI",
    "AERESISzeCAPITAL LETTER Y WITH DOT ABOVEzgSMALL LETTER Y WITH DOT ABOVEzeCAPITAL LETTER Z WITH CIRCUMFLEXzhS",
    "MALL LETTER Z WITH CIRCUMFLEXzfCAPITAL LETTER Z WITH DOT BELOWzgSMALL LETTER Z WITH DOT BELOWzeCAPITAL LETTE",
    "R Z WITH LINE BELOWzhSMALL LETTER Z WITH LINE BELOWrH WITH LINE BELOWrT WITH DIAERESISqW WITH RING ABOVErY W",
    "ITH RING ABOVErA WITH RIGHT HALF RINGwLONG S WITH DOT ABOVEiIAGONAL STROKEpHIGH STROKEzlCAPITAL LETTER SHARP",
    " SwSMALL LETTER DELTAsCAPITAL LETTER A WITH DOT BELOWzgSMALL LETTER A WITH DOT BELOWzeCAPITAL LETTER A WITH ",
    "HOOK ABOVEzhSMALL LETTER A WITH HOOK ABOVEzfCAPITAL LETTER A WITH CIRCUMFLEX AND ACUTEzrSMALL LETTER A WITH ",
    "CIRCUMFLEX AND ACUTEzpCAPITAL LETTER A WITH CIRCUMFLEX AND GRAVEzrSMALL LETTER A WITH CIRCUMFLEX AND GRAVEzp",
    "CAPITAL LETTER A WITH CIRCUMFLEX AND HOOK ABOVEzwSMALL LETTER A WITH CIRCUMFLEX AND HOOK ABOVEzuCAPITAL LETT",
    "ER A WITH CIRCUMFLEX AND TILDEzrSMALL LETTER A WITH CIRCUMFLEX AND TILDEzpCAPITAL LETTER A WITH CIRCUMFLEX A",
    "ND DOT BELOWzvSMALL LETTER A WITH CIRCUMFLEX AND DOT BELOWztCAPITAL LETTER A WITH BREVE AND ACUTEzmSMALL LET",
    "TER A WITH BREVE AND ACUTEzkCAPITAL LETTER A WITH BREVE AND GRAVEzmSMALL LETTER A WITH BREVE AND GRAVEzkCAPI",
    "TAL LETTER A WITH BREVE AND HOOK ABOVEzrSMALL LETTER A WITH BREVE AND HOOK ABOVEzpCAPITAL LETTER A WITH BREV",
    "E AND TILDEzmSMALL LETTER A WITH BREVE AND TILDEzkCAPITAL LETTER A WITH BREVE AND DOT BELOWzqSMALL LETTER A ",
    "WITH BREVE AND DOT BELOWzoCAPITAL LETTER E WITH DOT BELOWzgSMALL LETTER E WITH DOT BELOWzeCAPITAL LETTER E W",
    "ITH HOOK ABOVEzhSMALL LETTER E WITH HOOK ABOVEzfCAPITAL LETTER E WITH TILDEzcSMALL LETTER E WITH TILDEzaCAPI",
    "TAL LETTER E WITH CIRCUMFLEX AND ACUTEzrSMALL LETTER E WITH CIRCUMFLEX AND ACUTEzpCAPITAL LETTER E WITH CIRC",
    "UMFLEX AND GRAVEzrSMALL LETTER E WITH CIRCUMFLEX AND GRAVEzpCAPITAL LETTER E WITH CIRCUMFLEX AND HOOK ABOVEz",
    "wSMALL LETTER E WITH CIRCUMFLEX AND HOOK ABOVEzuCAPITAL LETTER E WITH CIRCUMFLEX AND TILDEzrSMALL LETTER E W",
    "ITH CIRCUMFLEX AND TILDEzpCAPITAL LETTER E WITH CIRCUMFLEX AND DOT BELOWzvSMALL LETTER E WITH CIRCUMFLEX AND",
    " DOT BELOWztCAPITAL LETTER I WITH HOOK ABOVEzhSMALL LETTER I WITH HOOK ABOVEzfCAPITAL LETTER I WITH DOT BELO",
    "WzgSMALL LETTER I WITH DOT BELOWzeCAPITAL LETTER O WITH DOT BELOWzgSMALL LETTER O WITH DOT BELOWzeCAPITAL LE",
    "TTER O WITH HOOK ABOVEzhSMALL LETTER O WITH HOOK ABOVEzfCAPITAL LETTER O WITH CIRCUMFLEX AND ACUTEzrSMALL LE",
    "TTER O WITH CIRCUMFLEX AND ACUTEzpCAPITAL LETTER O WITH CIRCUMFLEX AND GRAVEzrSMALL LETTER O WITH CIRCUMFLEX",
    " AND GRAVEzpCAPITAL LETTER O WITH CIRCUMFLEX AND HOOK ABOVEzwSMALL LETTER O WITH CIRCUMFLEX AND HOOK ABOVEzu",
    "CAPITAL LETTER O WITH CIRCUMFLEX AND TILDEzrSMALL LETTER O WITH CIRCUMFLEX AND TILDEzpCAPITAL LETTER O WITH ",
    "CIRCUMFLEX AND DOT BELOWzvSMALL LETTER O WITH CIRCUMFLEX AND DOT BELOWztCAPITAL LETTER O WITH HORN AND ACUTE",
    "zlSMALL LETTER O WITH HORN AND ACUTEzjCAPITAL LETTER O WITH HORN AND GRAVEzlSMALL LETTER O WITH HORN AND GRA",
    "VEzjCAPITAL LETTER O WITH HORN AND HOOK ABOVEzqSMALL LETTER O WITH HORN AND HOOK ABOVEzoCAPITAL LETTER O WIT",
    "H HORN AND TILDEzlSMALL LETTER O WITH HORN AND TILDEzjCAPITAL LETTER O WITH HORN AND DOT BELOWzpSMALL LETTER",
    " O WITH HORN AND DOT BELOWznCAPITAL LETTER U WITH DOT BELOWzgSMALL LETTER U WITH DOT BELOWzeCAPITAL LETTER U",
    " WITH HOOK ABOVEzhSMALL LETTER U WITH HOOK ABOVEzfCAPITAL LETTER U WITH HORN AND ACUTEzlSMALL LETTER U WITH ",
    "HORN AND ACUTEzjCAPITAL LETTER U WITH HORN AND GRAVEzlSMALL LETTER U WITH HORN AND GRAVEzjCAPITAL LETTER U W",
    "ITH HORN AND HOOK ABOVEzqSMALL LETTER U WITH HORN AND HOOK ABOVEzoCAPITAL LETTER U WITH HORN AND TILDEzlSMAL",
    "L LETTER U WITH HORN AND TILDEzjCAPITAL LETTER U WITH HORN AND DOT BELOWzpSMALL LETTER U WITH HORN AND DOT B",
    "ELOWznCAPITAL LETTER Y WITH GRAVEzcSMALL LETTER Y WITH GRAVEzaCAPITAL LETTER Y WITH DOT BELOWzgSMALL LETTER ",
    "Y WITH DOT BELOWzeCAPITAL LETTER Y WITH HOOK ABOVEzhSMALL LETTER Y WITH HOOK ABOVEzfCAPITAL LETTER Y WITH TI",
    "LDEzcSMALL LETTER Y WITH TILDEzaCAPITAL LETTER MIDDLE-WELSH LLzfSMALL LETTER MIDDLE-WELSH LLzdCAPITAL LETTER",
    " MIDDLE-WELSH VzeSMALL LETTER MIDDLE-WELSH VzcCAPITAL LETTER Y WITH LOOPzbSMALL LETTER Y WITH LOOPzfGREEK SM",
    "ALL LETTER ALPHA WITH PSILIfDASIAfPSILI AND VARIApDASIA AND VARIApPSILI AND OXIAoDASIA AND OXIAoPSILI AND PE",
    "RISPOMENIvDASIA AND PERISPOMENIzuCAPITAL LETTER ALPHA WITH PSILIfDASIAfPSILI AND VARIApDASIA AND VARIApPSILI",
    " AND OXIAoDASIA AND OXIAoPSILI AND PERISPOMENIvDASIA AND PERISPOMENIzwSMALL LETTER EPSILON WITH PSILIfDASIAf",
    "PSILI AND VARIApDASIA AND VARIApPSILI AND OXIAoDASIA AND OXIA"]⟩,
  ⟨0x1F18, [
    "aGREEK CAPITAL LETTER EPSILON WITH PSILIfDASIAfPSILI AND VARIApDASIA AND VARIApPSILI AND OXIAoDASIA AND OXIA"]⟩,
  ⟨0x1F20, [
    "aGREEK SMALL LETTER ETA WITH PSILIfDASIAfPSILI AND VARIApDASIA AND VARIApPSILI AND OXIAoDASIA AND OXIAoPSILI",
    " AND PERISPOMENIvDASIA AND PERISPOMENIzsCAPITAL LETTER ETA WITH PSILIfDASIAfPSILI AND VARIApDASIA AND VARIAp",
    "PSILI AND OXIAoDASIA AND OXIAoPSILI AND PERISPOMENIvDASIA AND PERISPOMENIzuSMALL LETTER IOTA WITH PSILIfDASI",
    "AfPSILI AND VARIApDASIA AND VARIApPSILI AND OXIAoDASIA AND OXIAoPSILI AND PERISPOMENIvDASIA AND PERISPOMENIz",
    "tCAPITAL LETTER IOTA WITH PSILIfDASIAfPSILI AND VARIApDASIA AND VARIApPSILI AND OXIAoDASIA AND OXIAoPSILI AN",
    "D PERISPOMENIvDASIA AND PERISPOMENIzvSMALL LETTER OMICRON WITH PSILIfDASIAfPSILI AND VARIApDASIA AND VARIApP",
    "SILI AND OXIAoDASIA AND OXIA"]⟩,
  ⟨0x1F48, [
    "aGREEK CAPITAL LETTER OMICRON WITH PSILIfDASIAfPSILI AND VARIApDASIA AND VARIApPSILI AND OXIAoDASIA AND OXIA"]⟩,
  ⟨0x1F50, [
    "aGREEK SMALL LETTER UPSILON WITH PSILIfDASIAfPSILI AND VARIApDASIA AND VARIApPSILI AND OXIAoDASIA AND OXIAoP",
    "SILI AND PERISPOMENIvDASIA AND PERISPOMENI"]⟩,
  ⟨0x1F59, ["aGREEK CAPITAL LETTER UPSILON WITH DASIA"]⟩,
  ⟨0x1F5B, ["aGREEK CAPITAL LETTER UPSILON WITH DASIA AND VARIA"]⟩,
  ⟨0x1F5D, ["aGREEK CAPITAL LETTER UPSILON WITH DASIA AND OXIA"]⟩,
  ⟨0x1F5F, [
    "aGREEK CAPITAL LETTER UPSILON WITH DASIA AND PERISPOMENIzySMALL LETTER OMEGA WITH PSILIfDASIAfPSILI AND VARI",
    "ApDASIA AND VARIApPSILI AND OXIAoDASIA AND OXIAoPSILI AND PERISPOMENIvDASIA AND PERISPOMENIzuCAPITAL LETTER ",
    "OMEGA WITH PSILIfDASIAfPSILI AND VARIApDASIA AND VARIApPSILI AND OXIAoDASIA AND OXIAoPSILI AND PERISPOMENIvD",
    "ASIA AND PERISPOMENIzwSMALL LETTER ALPHA WITH VARIAfOXIApEPSILON WITH VARIAfOXIAqTA WITH VARIAfOXIAnIOTA WIT",
    "H VARIAfOXIAoOMICRON WITH VARIAfOXIArUPSILON WITH VARIAfOXIArOMEGA WITH VARIAfOXIA"]⟩,
  ⟨0x1F80, [
    "aGREEK SMALL LETTER ALPHA WITH PSILI AND YPOGEGRAMMENIxDASIA AND YPOGEGRAMMENIxPSILI AND VARIA AND YPOGEGRAM",
    "MENIziDASIA AND VARIA AND YPOGEGRAMMENIziPSILI AND OXIA AND YPOGEGRAMMENIzhDASIA AND OXIA AND YPOGEGRAMMENIz",
    "hPSILI AND PERISPOMENI AND YPOGEGRAMMENIzoDASIA AND PERISPOMENI AND YPOGEGRAMMENIzznCAPITAL LETTER ALPHA WIT",
    "H PSILI AND PROSGEGRAMMENIyDASIA AND PROSGEGRAMMENIyPSILI AND VARIA AND PROSGEGRAMMENIzjDASIA AND VARIA AND ",
    "PROSGEGRAMMENIzjPSILI AND OXIA AND PROSGEGRAMMENIziDASIA AND OXIA AND PROSGEGRAMMENIziPSILI AND PERISPOMENI ",
    "AND PROSGEGRAMMENIzpDASIA AND PERISPOMENI AND PROSGEGRAMMENIzzqSMALL LETTER ETA WITH PSILI AND YPOGEGRAMMENI",
    "xDASIA AND YPOGEGRAMMENIxPSILI AND VARIA AND YPOGEGRAMMENIziDASIA AND VARIA AND YPOGEGRAMMENIziPSILI AND OXI",
    "A AND YPOGEGRAMMENIzhDASIA AND OXIA AND YPOGEGRAMMENIzhPSILI AND PERISPOMENI AND YPOGEGRAMMENIzoDASIA AND PE",
    "RISPOMENI AND YPOGEGRAMMENIzzlCAPITAL LETTER ETA WITH PSILI AND PROSGEGRAMMENIyDASIA AND PROSGEGRAMMENIyPSIL",
    "I AND VARIA AND PROSGEGRAMMENIzjDASIA AND VARIA AND PROSGEGRAMMENIzjPSILI AND OXIA AND PROSGEGRAMMENIziDASIA",
    " AND OXIA AND PROSGEGRAMMENIziPSILI AND PERISPOMENI AND PROSGEGRAMMENIzpDASIA AND PERISPOMENI AND PROSGEGRAM",
    "MENIzzoSMALL LETTER OMEGA WITH PSILI AND YPOGEGRAMMENIxDASIA AND YPOGEGRAMMENIxPSILI AND VARIA AND YPOGEGRAM",
    "MENIziDASIA AND VARIA AND YPOGEGRAMMENIziPSILI AND OXIA AND YPOGEGRAMMENIzhDASIA AND OXIA AND YPOGEGRAMMENIz",
    "hPSILI AND PERISPOMENI AND YPOGEGRAMMENIzoDASIA AND PERISPOMENI AND YPOGEGRAMMENIzznCAPITAL LETTER OMEGA WIT",
    "H PSILI AND PROSGEGRAMMENIyDASIA AND PROSGEGRAMMENIyPSILI AND VARIA AND PROSGEGRAMMENIzjDASIA AND VARIA AND ",
    "PROSGEGRAMMENIzjPSILI AND OXIA AND PROSGEGRAMMENIziDASIA AND OXIA AND PROSGEGRAMMENIziPSILI AND PERISPOMENI ",
    "AND PROSGEGRAMMENIzpDASIA AND PERISPOMENI AND PROSGEGRAMMENIzzqSMALL LETTER ALPHA WITH VRACHYgMACRONgVARIA A",
    "ND YPOGEGRAMMENIxYPOGEGRAMMENInOXIA AND YPOGEGRAMMENI"]⟩,
  ⟨0x1FB6, [
    "aGREEK SMALL LETTER ALPHA WITH PERISPOMENIa AND YPOGEGRAMMENIzzdCAPITAL LETTER ALPHA WITH VRACHYgMACRONgVARI",
    "AfOXIAePROSGEGRAMMENIzpKORONIShPROSGEGRAMMENInSILIeERISPOMENIlDIALYTIKA AND PERISPOMENIzaSMALL LETTER ETA WI",
    "TH VARIA AND YPOGEGRAMMENIxYPOGEGRAMMENInOXIA AND YPOGEGRAMMENI"]⟩,
  ⟨0x1FC6, [
    "aGREEK SMALL LETTER ETA WITH PERISPOMENIa AND YPOGEGRAMMENIzzbCAPITAL LETTER EPSILON WITH VARIAfOXIAqTA WITH",
    " VARIAfOXIAePROSGEGRAMMENIznPSILI AND VARIAfOXIAePERISPOMENIvSMALL LETTER IOTA WITH VRACHYgMACRONgDIALYTIKA ",
    "AND VARIAfOXIA"]⟩,
  ⟨0x1FD6, [
    "aGREEK SMALL LETTER IOTA WITH PERISPOMENIlDIALYTIKA AND PERISPOMENIzxCAPITAL LETTER IOTA WITH VRACHYgMACRONg",
    "VARIAfOXIA"]⟩,
  ⟨0x1FDD, [
    "aGREEK DASIA AND VARIAfOXIAePERISPOMENIvSMALL LETTER UPSILON WITH VRACHYgMACRONgDIALYTIKA AND VARIAfOXIAzgRH",
    "O WITH PSILIfDASIAoUPSILON WITH PERISPOMENIlDIALYTIKA AND PERISPOMENIzzbCAPITAL LETTER UPSILON WITH VRACHYgM",
    "ACRONgVARIAfOXIArRHO WITH DASIAzeDIALYTIKA AND VARIAfOXIAsVARIA"]⟩,
  ⟨0x1FF2, ["aGREEK SMALL LETTER OMEGA WITH VARIA AND YPOGEGRAMMENIxYPOGEGRAMMENInOXIA AND YPOGEGRAMMENI"]⟩,
  ⟨0x1FF6, [
    "aGREEK SMALL LETTER OMEGA WITH PERISPOMENIa AND YPOGEGRAMMENIzzdCAPITAL LETTER OMICRON WITH VARIAfOXIApEGA W",
    "ITH VARIAfOXIAePROSGEGRAMMENIzpOXIAeDASIA"]⟩]

end DomainPolicy.CharacterName
