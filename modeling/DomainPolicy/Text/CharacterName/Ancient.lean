import DomainPolicy.Text.CharacterName.Basic

/-!
# Names of characters, from U+10000 to U+1CFFF

* The scripts of ancient times, and rare ones.
-/

namespace DomainPolicy.CharacterName

/-- The names of the characters from U+10000 on. -/
def ancient : List Block := [
  ⟨0x10000, ["aLINEAR B SYLLABLE B008 Ae38 Ee28 Ie61 Oe10 Ue01 DAf45 DEf07 DIf14 DOf51 DUe7 JAf46 JE"]⟩,
  ⟨0x1000D, [
    "aLINEAR B SYLLABLE B036 JOf65 JUf77 KAf44 KEf67 KIf70 KOf81 KUe0 MAf13 MEf73 MIf15 MOf23 MUf06 NAf24 NEf30 N",
    "If52 NOe5 NUf03 PAf72 PEf39 PIf11 POf50 PUf16 QAf78 QEf21 QIf32 QO"]⟩,
  ⟨0x10028, [
    "aLINEAR B SYLLABLE B060 RAf27 REf53 RIf02 ROf26 RUf31 SAf09 SEf41 SIf12 SOf58 SUe9 TAf04 TEf37 TIf05 TOf69 T",
    "Uf54 WAf75 WEf40 WIe2 WO"]⟩,
  ⟨0x1003C, ["aLINEAR B SYLLABLE B017 ZAf74 ZE"]⟩,
  ⟨0x1003F, [
    "aLINEAR B SYLLABLE B020 ZOe5 A2f43 A3f85 AUf71 DWEg90 DWOg48 NWAg29 PU2g62 PTEg76 RA2g33 RA3g68 RO2f6 TA2g87",
    " TWEg91 TWO"]⟩,
  ⟨0x10050, ["aLINEAR B SYMBOL B018b9c22c34c47b9c56c63b4c79c82b3b6b9"]⟩,
  ⟨0x10080, [
    "aLINEAR B IDEOGRAM B100 MANf2 WOMANh4 DEERg5 EQUIDgF MAREgM STALLIONl6F EWEfM RAMg7F SHE-GOATkM HE-GOATk8F S",
    "OWfM BOARh9F COWfM BULLi20 WHEATh1 BARLEYi2 OLIVEh3 SPICEh5 CYPERUSvMONOGRAM B127 KAPOg8 KANAKOuIDEOGRAM B13",
    "0 OILf1 WINEg2nMONOGRAM B133 AREPAh5 MERIsIDEOGRAM B140 BRONZEi1 GOLDg2b5 WOOLg6c50b1 HORNg2b3b4nMONOGRAM B1",
    "56 TURO2tIDEOGRAM B157b8b9 CLOTHi60b1b2 GARMENTj3 ARMOURi4b5b6b7b8b9c70b1b2b3 MONTHh4b6 TREEg7b8b9c80b1b2b3b",
    "4b5b9c90b1 HELMETk220 FOOTSTOOLl5 BATHTUBk30 SPEARh1 ARROWh2b3 SWORDh4b6c40 WHEELED CHARIOTr1 CHARIOTj2 CHAR",
    "IOT FRAMEp3 WHEELh5b6nMONOGRAM B247 DIPTEtIDEOGRAM B248b9c51b2b3b4 DARTg5b6b7b8b9eVESSEL B155d200b1b2b3b4b5b",
    "6b7b8b9c10b1b2b3b4b5b6b7b8b9c21b2b6b7b8b9c50d305"]⟩,
  ⟨0x10100, ["aAEGEAN WORD SEPARATOR LINEeDOTsCHECK MARK"]⟩,
  ⟨0x10107, [
    "aAEGEAN NUMBER ONEdTWOcHREEfFOURdIVEeSIXcEVENfEIGHTfNINEeTENcWENTYfHIRTYgFORTYeIFTYfSIXTYeEVENTYhEIGHTYgNINE",
    "TYgONE HUNDREDlTWO HUNDREDkHREE HUNDREDnFOUR HUNDREDlIVE HUNDREDmSIX HUNDREDkEVEN HUNDREDnEIGHT HUNDREDnNINE",
    " HUNDREDmONE THOUSANDmTWO THOUSANDlHREE THOUSANDoFOUR THOUSANDmIVE THOUSANDnSIX THOUSANDlEVEN THOUSANDoEIGHT",
    " THOUSANDoNINE THOUSANDnTEN THOUSANDlWENTY THOUSANDoHIRTY THOUSANDpFORTY THOUSANDnIFTY THOUSANDoSIXTY THOUSA",
    "NDnEVENTY THOUSANDqEIGHTY THOUSANDpNINETY THOUSAND"]⟩,
  ⟨0x10137, [
    "aAEGEAN WEIGHT BASE UNITjFIRST SUBUNITnSECOND SUBUNIToTHIRD SUBUNITnFOURTH SUBUNITvDRY MEASURE FIRST SUBUNIT",
    "zaLIQUID MEASURE FIRST SUBUNITzdMEASURE SECOND SUBUNIToTHIRD SUBUNITzdGREEK ACROPHONIC ATTIC ONE QUARTERhHAL",
    "FeDRACHMAlFIVEcFTYdVE HUNDREDhTHOUSANDlFTY THOUSANDmVE TALENTSmTEN TALENTSlFIFTY TALENTSnONE HUNDRED TALENTS",
    "tFIVE HUNDRED TALENTSuONE THOUSAND TALENTSuFIVE THOUSAND TALENTSqSTATERSmTEN STATERSlFIFTY STATERSnONE HUNDR",
    "ED STATERStFIVE HUNDRED STATERSuONE THOUSAND STATERSuTEN THOUSAND STATERSuFIFTY THOUSAND STATERSwTEN MNASoHE",
    "RAEUM ONE PLETHRONuTHESPIAN ONEmHERMIONIAN ONEoEPIDAUREAN TWOoTHESPIAN TWOmCYRENAIC TWO DRACHMASvEPIDAUREAN ",
    "TWO DRACHMASxTROEZENIAN FIVEeTENa ALTERNATE FORMzeHERMIONIAN TENoMESSENIAN TENnTHESPIAN TENcHIRTYoROEZENIAN ",
    "FIFTYa ALTERNATE FORMzgHERMIONIAN FIFTYqTHESPIAN FIFTYfONE HUNDREDlTHREE HUNDREDwEPIDAUREAN FIVE HUNDREDxTRO",
    "EZENIAN FIVE HUNDREDwHESPIAN FIVE HUNDREDvCARYSTIAN FIVE HUNDREDwNAXIAN FIVE HUNDREDtTHESPIAN ONE THOUSANDmF",
    "IVE THOUSANDwDELPHIC FIVE MNASrSTRATIAN FIFTY MNASzfONE HALF SIGNa ALTERNATE FORMzdTWO THIRDS SIGNoHREE QUAR",
    "TERS SIGNtYEAR SIGNjTALENT SIGNlDRACHMA SIGNmOBOL SIGNjTWO OBOLS SIGNnHREE OBOLS SIGNqFOUR OBOLS SIGNoIVE OB",
    "OLS SIGNpMETRETES SIGNnKYATHOS BASE SIGNrLITRA SIGNkOUNKIA SIGNlXESTES SIGNlARTABE SIGNjOURA SIGNlGRAMMA SIG",
    "NlTRYBLION BASE SIGNsZERO SIGNjONE QUARTER SIGNqSINUSOID SIGNnINDICTION SIGNuNOMISMA SIGN"]⟩,
  ⟨0x10190, [
    "aROMAN SEXTANS SIGNmUNCIA SIGNkSEMUNCIA SIGNlXTULA SIGNmDIMIDIA SEXTULA SIGNuSILIQUA SIGNmDENARIUS SIGNnQUIN",
    "ARIUS SIGNoSESTERTIUS SIGNpDUPONDIUS SIGNoAS SIGNhCENTURIAL SIGNuASCIA SYMBOL"]⟩,
  ⟨0x101A0, ["aGREEK SYMBOL TAU RHO"]⟩,
  ⟨0x101D0, [
    "aPHAISTOS DISC SIGN PEDESTRIANjLUMED HEADlTATTOOED HEADnCAPTIVEgHILDfWOMANfHELMETgGAUNTLETiTIARAfARROWfBOWdS",
    "HIELDgCLUBeMANACLESgTTOCKhSAWdLIDdBOOMERANGjCARPENTRY PLANEpDOLIUMgCOMBeSLINGfCOLUMNgBEEHIVEhSHIPeHORNdIDEeB",
    "ULLS LEGjCATdRAMdEAGLEfDOVEeTUNNYfBEEdPLANE TREEkVINEePAPYRUShROSETTEhLILYeOX BACKhFLUTEfGRATERgSTRAINERhMAL",
    "L AXEjWAVY BANDjCOMBINING OBLIQUE STROKE"]⟩,
  ⟨0x10280, ["aLYCIAN LETTER AbEbBaHcGbDbIbWbZbTHcJbKbQbLbMbNbMMcNNcUbPbKKcRbSbTaTcANcENcHbX"]⟩,
  ⟨0x102A0, [
    "aCARIAN LETTER AbP2cDbLbUUUdRbLDcA2cQbBbMbObD2cTbSHa2dSbC-18eUbNNcXbNbTT2dPbSScIbEbUUUUeKa2cNDcUUcGa2cSTa2dN",
    "GcIIcC-39eTTcUUU2eRRcMBa2b3b4dLD2dE2cUUU3"]⟩,
  ⟨0x102E0, [
    "aCOPTIC EPACT THOUSANDS MARKoDIGIT ONEdTWOcHREEfFOURdIVEeSIXcEVENfEIGHTfNINEkNUMBER TENcWENTYfHIRTYgFORTYeIF",
    "TYfSIXTYeEVENTYhEIGHTYgNINETYgONE HUNDREDlTWO HUNDREDkHREE HUNDREDnFOUR HUNDREDlIVE HUNDREDmSIX HUNDREDkEVEN",
    " HUNDREDnEIGHT HUNDREDnNINE HUNDRED"]⟩,
  ⟨0x10300, [
    "aOLD ITALIC LETTER AbBEcKEcDEcEbVEcZEcHEcTHEdIbKAcELbMbNbSHdObPEcSHEdKUcERbScTEcUbEKSdPHEdKHEdEFbRSdCHEdIIcU",
    "UcESSkNUMERAL ONEdFIVEeTENdFIFTY"]⟩,
  ⟨0x1032D, [
    "aOLD ITALIC LETTER YEcNORTHERN TSEmSOUTHERN TSEzfGOTHIC LETTER AHSAeBAIRKANhGIBAeDAGSeAIHVUSgQAIRTHRAiIUJAeH",
    "AGLeTHIUTHgEISdKUSMAfLAGUSfMANNAfNAUTHSgJERdURUSePAIRTHRAiNINETYgRAIDAfSAUILfTEIWSfWINJAfFAIHUfIGGWSfHWAIRfO",
    "THALfNINE HUNDRED"]⟩,
  ⟨0x10350, [
    "aOLD PERMIC LETTER ANcBURdGAIdDOIdEbZHOIeDZHOIfZATAeDZITAfIbKOKEeLEIdMENOEfNENOEfVOOIePEEIeREIdSIIdTAIdUbCHE",
    "RYfSHOOIdCHOOIhYRYcERUeOaOcEFcHAcTSIUeVERdYERaIdATdIEcYUbAcIAuCOMBINING OLD PERMIC LETTER ANcDOIdZATAeNENOEf",
    "SII"]⟩,
  ⟨0x10380, [
    "aUGARITIC LETTER ALPAeBETAeGAMLAfKHAdDELTAfHOcWOcZETAeHOTAeTETdYODdKAFdSHINeLAMDAfMEMdDHALeNUNdZUcSAMKAfAINd",
    "PUcSADEeQOPAeRASHAfTHANNAgGHAINfTOcIbUbSSU"]⟩,
  ⟨0x1039F, [
    "aUGARITIC WORD DIVIDERvOLD PERSIAN SIGN AbIbUbKAbUcGAbUcXAcCAcJAbIcTAbUcDAbIbUcTHAdPAcBAcFAcNAbUcMAbIbUcYAcV",
    "AbIcRAbUcLAcSAcZAcSHAcSAdHA"]⟩,
  ⟨0x103C8, [
    "aOLD PERSIAN SIGN AURAMAZDAAa-2cHAmXSHAAYATHIYAmDAHYAAUSHa-2lBAGAdUUMISHmWORD DIVIDERmNUMBER ONEdTWOcENcWENT",
    "YgHUNDRED"]⟩,
  ⟨0x10400, [
    "aDESERET CAPITAL LETTER LONG IbEbAaHcOaOhSHORT IbEbAaHcOaOiAYcOWcWUcYEEdHbPEEdBEEdTEEdDEEdCHEEeJEEdKAYdGAYdE",
    "FcVEEdETHdTHEEeEScZEEdESHdZHEEeERbLbMbNaGdOIcEWrSMALL LETTER LONG IbEbAaHcOaOhSHORT IbEbAaHcOaOiAYcOWcWUcYEE",
    "dHbPEEdBEEdTEEdDEEdCHEEeJEEdKAYdGAYdEFcVEEdETHdTHEEeEScZEEdESHdZHEEeERbLbMbNaGdOIcEWxSHAVIAN LETTER PEEPeTOT",
    "dKICKeFEEdTHIGHfSObUREeCHURCHgYEAdHUNGeBIBdDEADeGAGdVOWdTHEYeZOOdMEASUREhJUDGEfWOEdHA-HAfLOLLeMIMEeIFcEGGdAS",
    "HcDOdONcWOOLeOUTdAHcROAReNUNdEATdAGEdICEdUPcOAKcOZEdILdAWEcREdORcAIRdERRdARRAYfEARdIANdYEWsOSMANYA LETTER AL",
    "EFeBAcTAcJAcXAcKHAdDEELeRAcSAbHIINfDHAdCAYNeGAcFAcQAAFeKAAFeLAANeMIINeNUUNeWAWdHAcYAcAbEbIbObUbAAcEEcOO"]⟩,
  ⟨0x104A0, ["aOSMANYA DIGIT ZEROeONEdTWOcHREEfFOURdIVEeSIXcEVENfEIGHTfNINE"]⟩,
  ⟨0x104B0, [
    "aOSAGE CAPITAL LETTER AaIaNcHcBRAdCHAdEHCHAfEaINdHAbYAdIbKAcEHKAeKYAdLAcMAcNAcOaINdPAcEHPAeSAbHAdTAcEHTAeTSA",
    "dEHTSAfTSHAeDHAdUbWAcKHAdGHAdZAbHA"]⟩,
  ⟨0x104D8, [
    "aOSAGE SMALL LETTER AaIaNcHcBRAdCHAdEHCHAfEaINdHAbYAdIbKAcEHKAeKYAdLAcMAcNAcOaINdPAcEHPAeSAbHAdTAcEHTAeTSAdE",
    "HTSAfTSHAeDHAdUbWAcKHAdGHAdZAbHA"]⟩,
  ⟨0x10500, [
    "aELBASAN LETTER AbBEcCEbHEdDEcNDEdDHEdEIcEbFEcGEbJEdHEcIbJEcKEcLEbLEdMEcNEbAbJEdObPEcQEcREbREdSEbHEdTEbHEdUb",
    "VEcXEcYbZEbHEdGHEbAMMAgKHE"]⟩,
  ⟨0x10530, [
    "aCAUCASIAN ALBANIAN LETTER ALTdBETdGIMdDATdEBcZARLeEYNdZHILeTASdCHAdYOWDeZHAdIRBdSHAdLANdINYAeXEYNeDYANeCARd",
    "JHOXeKARdLYITeHEYTeQAYdAORdCHOYcIcYAYeMAQdQARdNOWCeDZYAYfSHAKeJAYNeONcTYAYeFAMdDZAYeCHATePENdGHEYSfRATdSEYKe",
    "VEYZeTIWReSHOYeIWNdCYAWdAYNeYAYDePIWReKIW"]⟩,
  ⟨0x1056F, ["aCAUCASIAN ALBANIAN CITATION MARKzhVITHKUQI CAPITAL LETTER AbBBEcEcCEbHEdDEbHEdEIcEbFEcGA"]⟩,
  ⟨0x1057C, ["aVITHKUQI CAPITAL LETTER HAbHAdIaJEdJEcKAcLAbLAdMEcNEbJEdObPEcQAcRE"]⟩,
  ⟨0x1058C, ["aVITHKUQI CAPITAL LETTER SEbHEdTEbHEdUbVEcXE"]⟩,
  ⟨0x10594, ["aVITHKUQI CAPITAL LETTER YbZE"]⟩,
  ⟨0x10597, ["aVITHKUQI SMALL LETTER AbBBEcEcCEbHEdDEbHEdEIcEbFEcGA"]⟩,
  ⟨0x105A3, ["aVITHKUQI SMALL LETTER HAbHAdIaJEdJEcKAcLAbLAdMEcNEbJEdObPEcQAcRE"]⟩,
  ⟨0x105B3, ["aVITHKUQI SMALL LETTER SEbHEdTEbHEdUbVEcXE"]⟩,
  ⟨0x105BB, ["aVITHKUQI SMALL LETTER YbZE"]⟩,
  ⟨0x10600, [
    "aLINEAR A SIGN AB001b2b3b4b5b6b7b8b9c10b1b3b6b7c20b1aFbMc2aFbMc3aMc4b6b7b8e028BeB029c30b1b4b7b8b9c40b1b4b5b6",
    "b7b8b9c50b1b3b4b5b6b7b8b9c60b1b5b6b7b9c70b3b4b6b7b8b9c80b1b2b5b6b7e100-102hB118c20e120BeB122b3c31AbBf131CeB1",
    "64c71c80b8c91e301b2b3b4b5b6b7b8b9AbBbCd10b1b2b3AbBbCc4b5b6b7b8b9c20b1b2b3b4b5b6b7b8b9c30b1b2b3b4b5b6b7b8b9c4",
    "0b1b2b3b4b5b6b7b8b9c50b1b2b3b4b5b6b7b8b9c60b1b2b3b4b5b6b7b8b9c70b1d400-VASf1-VASf2-VASf3-VASf4-VASf5-VASf6-V",
    "ASf7-VASf8-VASf9-VASg10-VASf1-VASf2-VASf3-VASf4-VASf5-VASf6-VASf7-VASf8-VASh501b2b3b4b5b6b8b9c10b1b2b3b5b6c2",
    "0b1b3b4b5b6b7b8b9c30b1b2b4b5b6b7b8b9c40b1b2b5b7b8b9c50b1b2b3b4b5b6b7b9c63b4b5b6b8b9c70b1b2b3b4b5b6b7b8b9c80b",
    "1b2b3b4b5b6b7b8b9c91b2b4b5b6b8d600b1b2b3b4b6b8b9c10b1b2b3b4b5b6b7b8b9c20b1b2b3b4b6b7b8b9c34b7b8c40b2b3b4b5b6",
    "b8b9c51b2b3b4b5b6b7b8b9c60b1b2b3b4"]⟩,
  ⟨0x10740, [
    "aLINEAR A SIGN A701 Ad2 Bd3 Dd4 Ed5 Fd6 Hd7 Jd8 Kd9 Lc-2 L2e3 L3e4 L4e6 L6h10 Wd1 Xd2 Yd3 OMEGAh4 ABBf5 BBe7",
    " DDf26 EYYYh32 JE"]⟩,
  ⟨0x10760, ["aLINEAR A SIGN A800b1b2b3b4b5b6b7"]⟩,
  ⟨0x10780, [
    "aMODIFIER LETTER SMALL CAPITAL AApUPERSCRIPT TRIANGULAR COLONqHALF TRIANGULAR COLONzhMALL AEcCAPITAL BjB WIT",
    "H HOOK"]⟩,
  ⟨0x10787, [
    "aMODIFIER LETTER SMALL DZ DIGRAPHa WITH RETROFLEX HOOKoCURLtEZH DIGRAPHl WITH TAILeHOOKa AND TAILuREVERSED E",
    "kCLOSED REVERSED OPEN EwFENG DIGRAPHmRAMS HORNjCAPITAL GjG WITH HOOKlCAPITAL G WITH HOOKtH WITH STROKEnCAPIT",
    "AL HjHENG WITH HOOKoDOTLESS J WITH STROKE AND HOOKzfLS DIGRAPHjZ DIGRAPHj WITH BELTlCAPITAL L WITH BELTtL WI",
    "TH RETROFLEX HOOK AND BELTzeEZHa WITH RETROFLEX HOOKyTURNED Ya WITH BELTsO WITH STROKEnCAPITAL OEjLOSED OMEG",
    "AmQbTURNED R WITH LONG LEGa AND RETROFLEX HOOKzqR WITH TAILeFISHHOOKpCAPITAL RjTC DIGRAPH WITH CURLtS DIGRAP",
    "Ha WITH RETROFLEX HOOKzeESH DIGRAPHl WITH RETROFLEX HOOKvV WITH RIGHT HOOK"]⟩,
  ⟨0x107B2, [
    "aMODIFIER LETTER SMALL CAPITAL YpGLOTTAL STOP WITH STROKEyREVERSED GLOTTAL STOP WITH STROKEziBILABIAL CLICKo",
    "DENTAL CLICKmLATERAL CLICKnALVEOLAR CLICKoRETROFLEX CLICK WITH RETROFLEX HOOKzkSMALL S WITH CURL"]⟩,
  ⟨0x10800, ["aCYPRIOT SYLLABLE AbEbIbObUbJA"]⟩,
  ⟨0x10808, ["aCYPRIOT SYLLABLE JO"]⟩,
  ⟨0x1080A, [
    "aCYPRIOT SYLLABLE KAbEbIbObUcLAbEbIbObUcMAbEbIbObUcNAbEbIbObUcPAbEbIbObUcRAbEbIbObUcSAbEbIbObUcTAbEbIbObUcWA",
    "bEbIbO"]⟩,
  ⟨0x10837, ["aCYPRIOT SYLLABLE XAbE"]⟩,
  ⟨0x1083C, ["aCYPRIOT SYLLABLE ZA"]⟩,
  ⟨0x1083F, [
    "aCYPRIOT SYLLABLE ZOtIMPERIAL ARAMAIC LETTER ALEPHfBETHeGIMELfDALETHgHEcWAWdZAYINfHETHeTETHeYODHeKAPHeLAMEDH",
    "gMEMdNUNdSAMEKHgAYINePEcSADHEfQOPHeRESHeSHINeTAW"]⟩,
  ⟨0x10857, [
    "aIMPERIAL ARAMAIC SECTION SIGNmNUMBER ONEdTWOcHREEeENcWENTYgONE HUNDREDhTHOUSANDmTEN THOUSANDzlPALMYRENE LET",
    "TER ALEPHfBETHeGIMELfDALETHgHEcWAWdZAYINfHETHeTETHeYODHeKAPHeLAMEDHgMEMdFINAL NUNjNUNdSAMEKHgAYINePEcSADHEfQ",
    "OPHeRESHeSHINeTAWiFT-POINTING FLEURONvRIGHT-POINTING FLEURONwNUMBER ONEdTWOcHREEfFOURdIVEeTENcWENTYxNABATAEA",
    "N LETTER FINAL ALEPHlALEPHfFINAL BETHkBETHeGIMELfDALETHgFINAL HEiHEcWAWdZAYINfHETHeTETHeFINAL YODHkYODHeFINA",
    "L KAPHkKAPHeFINAL LAMEDHmLAMEDHgFINAL MEMjMEMdFINAL NUNjNUNdSAMEKHgAYINePEcSADHEfQOPHeRESHeFINAL SHINkSHINeT",
    "AW"]⟩,
  ⟨0x108A7, ["aNABATAEAN NUMBER ONEdTWOcHREEfFOURlCRUCIFORM NUMBER FOURvNUMBER FIVEeTENcWENTYgONE HUNDRED"]⟩,
  ⟨0x108E0, [
    "aHATRAN LETTER ALEPHfBETHeGIMELfDALETH-RESHlHEcWAWdZAYNeHETHeTETHeYODHeKAPHeLAMEDHgMEMdNUNdSAMEKHgAYNdPEcSAD",
    "HEfQOPH"]⟩,
  ⟨0x108F4, ["aHATRAN LETTER SHINeTAW"]⟩,
  ⟨0x108FB, [
    "aHATRAN NUMBER ONEdFIVEeTENcWENTYgONE HUNDREDzaPHOENICIAN LETTER ALFdBETdGAMLeDELTeHEcWAUdZAIdHETdTETdYODdKA",
    "FdLAMDeMEMdNUNdSEMKeAINdPEcSADEeQOFdROSHeSHINeTAUkNUMBER ONEdTENcWENTYgONE HUNDREDlTWOcHREE"]⟩,
  ⟨0x1091F, [
    "aPHOENICIAN WORD SEPARATORzaLYDIAN LETTER AbBbGbDbEbVbIbYbKbLbMbNbObRbSScTbUbFbQbSbTTcANcENcLYcNNcC"]⟩,
  ⟨0x1093F, ["aLYDIAN TRIANGULAR MARK"]⟩,
  ⟨0x10980, [
    "aMEROITIC HIEROGLYPHIC LETTER AbEbIbObYAcWAcBAa-2ePAcMAcNAa-2dEa-2eRAa-2eLAcKHAdHHAdSAa-2dEcKAcQAcTAa-2dEa-2",
    "dOcDAjSYMBOL VIDJa-2zbCURSIVE LETTER AbEbIbObYAcWAcBAcPAcMAcNAbEcRAcLAcKHAdHHAdSAcARCHAIC SAkSEcKAcQAcTAbEbO",
    "cDA"]⟩,
  ⟨0x109BC, [
    "aMEROITIC CURSIVE FRACTION ELEVEN TWELFTHSpONE HALFrLOGOGRAM RMTdIMNmNUMBER ONEdTWOcHREEfFOURdIVEeSIXcEVENfE",
    "IGHTfNINEeTENcWENTYfHIRTYgFORTYeIFTYfSIXTYeEVENTY"]⟩,
  ⟨0x109D2, [
    "aMEROITIC CURSIVE NUMBER ONE HUNDREDlTWO HUNDREDkHREE HUNDREDnFOUR HUNDREDlIVE HUNDREDmSIX HUNDREDkEVEN HUND",
    "REDnEIGHT HUNDREDnNINE HUNDREDmONE THOUSANDmTWO THOUSANDlHREE THOUSANDoFOUR THOUSANDmIVE THOUSANDnSIX THOUSA",
    "NDlEVEN THOUSANDoEIGHT THOUSANDoNINE THOUSANDnTEN THOUSANDlWENTY THOUSANDoHIRTY THOUSANDpFORTY THOUSANDnIFTY",
    " THOUSANDoSIXTY THOUSANDnEVENTY THOUSANDqEIGHTY THOUSANDpNINETY THOUSANDpONE HUNDRED THOUSANDuTWO HUNDRED TH",
    "OUSANDtHREE HUNDRED THOUSANDwFOUR HUNDRED THOUSANDuIVE HUNDRED THOUSANDvSIX HUNDRED THOUSANDtEVEN HUNDRED TH",
    "OUSANDwEIGHT HUNDRED THOUSANDwNINE HUNDRED THOUSANDzdFRACTION ONE TWELFTHlTWO TWELFTHSlHREE TWELFTHSoFOUR TW",
    "ELFTHSmIVE TWELFTHSnSIX TWELFTHSlEVEN TWELFTHSoEIGHT TWELFTHSoNINE TWELFTHSnTEN TWELFTHSznKHAROSHTHI LETTER ",
    "AiVOWEL SIGN IbUbVOCALIC R"]⟩,
  ⟨0x10A05, ["aKHAROSHTHI VOWEL SIGN EbO"]⟩,
  ⟨0x10A0C, ["aKHAROSHTHI VOWEL LENGTH MARKrSIGN DOUBLE RING BELOWrANUSVARAiVISARGAmLETTER KAbHAdGAbHA"]⟩,
  ⟨0x10A15, ["aKHAROSHTHI LETTER CAbHAdJA"]⟩,
  ⟨0x10A19, [
    "aKHAROSHTHI LETTER NYAdTTAbHAeDDAbHAeNNAdTAbHAdDAbHAdNAcPAbHAdBAbHAdMAcYAcRAcLAcVAcSHAcSAcAcZAcHAcKKAdTTTHAc",
    "AeVHA"]⟩,
  ⟨0x10A38, ["aKHAROSHTHI SIGN BAR ABOVEjCAUDAfDOT BELOW"]⟩,
  ⟨0x10A3F, [
    "aKHAROSHTHI VIRAMAgDIGIT ONEdTWOcHREEfFOURkNUMBER TENcWENTYgONE HUNDREDhTHOUSANDtFRACTION ONE HALF"]⟩,
  ⟨0x10A50, [
    "aKHAROSHTHI PUNCTUATION DOTdSMALL CIRCLEmCIRCLEfRESCENT BARmMANGALAMiLOTUSfDANDAeOUBLE DANDAmLINES"]⟩,
  ⟨0x10A60, [
    "aOLD SOUTH ARABIAN LETTER HEcLAMEDHgHETHeMEMdQOPHeWAWdSHINeRESHeBETHeTAWdSATdKAPHeNUNdKHETHfSADHEdMEKHgFEcAL",
    "EFdYNdDHADHEgGIMELfDALETHgGHAYNfTETHeZAYNeDHALETHhYODHeTHAWcETHmNUMBER ONEdFIFTYjERIC INDICATORzgNORTH ARABI",
    "AN LETTER HEHdLAMdHAHdMEEMeQAFdWAWdES-2eREHdBEHdTEHdES-1eKAFdNOONeKHAHeSADdES-3eFEHdALEFdINdDADdGEEMeDALdGHA",
    "INfTAHdZAINeTHALeYEHdTHEHeZAHkNUMBER ONEdTENcWENTY"]⟩,
  ⟨0x10AC0, [
    "aMANICHAEAN LETTER ALEPHfBETHdHETHfGIMELeHIMELgDALETHgHEcWAWkSIGN UDhLETTER ZAYINeHAYINgJAYINeHAYINgHETHeTET",
    "HeYODHeKAPHeXAPHeKHAPHfLAMEDHgDHAMEDHhTHAMEDHhMEMdNUNdSAMEKHgAYINdAYINfPEcFEcSADHEfQOPHeXOPHeQHOPHfRESHeSHIN",
    "dSHINfTAWkABBREVIATION MARK ABOVEfBELOW"]⟩,
  ⟨0x10AEB, [
    "aMANICHAEAN NUMBER ONEdFIVEeTENcWENTYgONE HUNDREDsPUNCTUATION STAReFLEURONhDOUBLE DOT WITHIN DOTtT WITHIN DO",
    "TmTdTWO DOTSiLINE FILLER"]⟩,
  ⟨0x10B00, [
    "aAVESTAN LETTER AaAbObAOcNbANcEaEdEaEcOaOcIaIcUaUcKEcXEbYEcVEdGEbGEcHEdCEcJEcTEbHEdDEbHEdTTEdPEcFEcBEbHEdNGE",
    "bYEcVEdEbYEcNEdMEcHMEdYYEcEcVEcREcLEcSEcZEcSHEdZHEdSHYEdSHEeHE"]⟩,
  ⟨0x10B39, [
    "aAVESTAN ABBREVIATION MARKzaTINY TWO DOTS OVER ONE DOT PUNCTUATIONznSMALL TWO DOTS OVER ONE DOT PUNCTUATIONz",
    "oLARGE TWO DOTS OVER ONE DOT PUNCTUATIONziONE DOT OVER TWO DOTS PUNCTUATIONziTWO RINGS OVER ONE RING PUNCTUA",
    "TIONzkONE RING OVER TWO RINGS PUNCTUATIONzqINSCRIPTIONAL PARTHIAN LETTER ALEPHfBETHeGIMELfDALETHgHEcWAWdZAYI",
    "NfHETHeTETHeYODHeKAPHeLAMEDHgMEMdNUNdSAMEKHgAYINePEcSADHEfQOPHeRESHeSHINeTAW"]⟩,
  ⟨0x10B58, [
    "aINSCRIPTIONAL PARTHIAN NUMBER ONEdTWOcHREEfFOUReTENcWENTYgONE HUNDREDhTHOUSANDzbHLAVI LETTER ALEPHfBETHeGIM",
    "ELfDALETHgHEcWAW-AYIN-RESHnZAYINfHETHeTETHeYODHeKAPHeLAMEDHgMEM-QOPHiNUNdSAMEKHgPEcSADHEeHINeTAW"]⟩,
  ⟨0x10B78, [
    "aINSCRIPTIONAL PAHLAVI NUMBER ONEdTWOcHREEfFOUReTENcWENTYgONE HUNDREDhTHOUSANDzqPSALTER PAHLAVI LETTER ALEPH",
    "fBETHeGIMELfDALETHgHEcWAW-AYIN-RESHnZAYINfHETHeYODHeKAPHeLAMEDHgMEM-QOPHiNUNdSAMEKHgPEcSADHEeHINeTAW"]⟩,
  ⟨0x10B99, ["aPSALTER PAHLAVI SECTION MARKmTURNED SECTION MARKtFOUR DOTS WITH CROSSfDOT"]⟩,
  ⟨0x10BA9, ["aPSALTER PAHLAVI NUMBER ONEdTWOcHREEfFOUReTENcWENTYgONE HUNDRED"]⟩,
  ⟨0x10C00, [
    "aOLD TURKIC LETTER ORKHON AiYENISEI AaEkORKHON IiYENISEI IbEjORKHON OaEjYENISEI OEkORKHON ABjYENISEI ABkORKH",
    "ON AEBkYENISEI AEBlORKHON AGjYENISEI AGkORKHON AEGkYENISEI AEGlORKHON ADjYENISEI ADkORKHON AEDdEZjYENISEI EZ",
    "kORKHON AYjYENISEI AYkORKHON AEYkYENISEI AEYlORKHON AEKkYENISEI AEKlORKHON OEKkYENISEI OEKlORKHON ALjYENISEI",
    " ALkORKHON AELdELTcMcANbENkYENISEI AENlORKHON ENTkYENISEI ENTlORKHON ENCkYENISEI ENClORKHON ENYkYENISEI ENYd",
    "ANGlORKHON ENGkYENISEI AENGmORKHON EPcOPcICcECjYENISEI ECkORKHON AQjYENISEI AQkORKHON IQjYENISEI IQkORKHON O",
    "QjYENISEI OQkORKHON ARjYENISEI ARkORKHON AERcSbEScSHkYENISEI ASHlORKHON ESHkYENISEI ESHlORKHON ATjYENISEI AT",
    "kORKHON AETkYENISEI AETlORKHON OTcBASH"]⟩,
  ⟨0x10C80, [
    "aOLD HUNGARIAN CAPITAL LETTER AaAcEBcAMBdECbNCcCScDcANDdEbCLOSE EhEEbFbGaYcHcIaIcEJbKcAKcUNKdELaYcMbNaYdOaOc",
    "NIKOLSBURG OEnRUDIMENTA OEmOEEdEPbMPcRcSHORT ERiESaZcTbNTcTYcCHdUaUcNIKOLSBURG UEnRUDIMENTA UEmEVbZaScNT-SHA",
    "PED SIGNpUS"]⟩,
  ⟨0x10CC0, [
    "aOLD HUNGARIAN SMALL LETTER AaAcEBcAMBdECbNCcCScDcANDdEbCLOSE EhEEbFbGaYcHcIaIcEJbKcAKcUNKdELaYcMbNaYdOaOcNI",
    "KOLSBURG OEnRUDIMENTA OEmOEEdEPbMPcRcSHORT ERiESaZcTbNTcTYcCHdUaUcNIKOLSBURG UEnRUDIMENTA UEmEVbZaScNT-SHAPE",
    "D SIGNpUS"]⟩,
  ⟨0x10CFA, [
    "aOLD HUNGARIAN NUMBER ONEdFIVEeTENdFIFTYfONE HUNDREDhTHOUSANDziHANIFI ROHINGYA LETTER AbBAcPAcTAbTAdJAcCAcHA",
    "cKHAdFAcDAbDAdRAbRAdZAcSAbHAdKAcGAcLAcMAcNAcWAcKINNA WAiYAcKINNA YAiNGAcYAdVAjVOWEL AbIbUbEbOhMARK SAKINfNA ",
    "KHONNAoSIGN HARBAHAYiTAHALAeNAcSSI"]⟩,
  ⟨0x10D30, ["aHANIFI ROHINGYA DIGIT ZEROeONEdTWOcHREEfFOURdIVEeSIXcEVENfEIGHTfNINE"]⟩,
  ⟨0x10E60, [
    "aRUMI DIGIT ONEdTWOcHREEfFOURdIVEeSIXcEVENfEIGHTfNINEkNUMBER TENcWENTYfHIRTYgFORTYeIFTYfSIXTYeEVENTYhEIGHTYg",
    "NINETYgONE HUNDREDlTWO HUNDREDkHREE HUNDREDnFOUR HUNDREDlIVE HUNDREDmSIX HUNDREDkEVEN HUNDREDnEIGHT HUNDREDn",
    "NINE HUNDREDtFRACTION ONE HALFeQUARTERhTHIRDjTWO THIRDS"]⟩,
  ⟨0x10E80, [
    "aYEZIDI LETTER ELIFeBEcPEbHEdTHEdSEcCIMcHIMcHIMfHHAdXAcDALdZALdRAbHAdZAcJAcSINcHINdADdDADdTAcZEcEYNdXHEYNfFA",
    "cVAa ALTERNATE FORMrQAFdKAFcHAFeGAFdLAMdMIMdNUNdUMcWAWdOWcEWcHAYdYOTdET"]⟩,
  ⟨0x10EAB, ["aYEZIDI COMBINING HAMZA MARKkMADDA MARKuHYPHENATION MARK"]⟩,
  ⟨0x10EB0, ["aYEZIDI LETTER LAM WITH DOT ABOVEsYOT WITH CIRCUMFLEX ABOVE"]⟩,
  ⟨0x10F00, [
    "aOLD SOGDIAN LETTER ALEPHfFINAL ALEPHlBETHeFINAL BETHkGIMELfHEcFINAL HEiWAWdZAYINfHETHeYODHeKAPHeLAMEDHgMEMd",
    "NUNdFINAL NUNa WITH VERTICAL TAILzdSAMEKHgAYINdLTERNATE AYINoPEcSADHEfFINAL SADHEa WITH VERTICAL TAILzfRESH-",
    "AYIN-DALETHqSHINeTAWdFINAL TAWa WITH VERTICAL TAILzkNUMBER ONEdTWOcHREEfFOURdIVEeTENcWENTYfHIRTYgONE HUNDRED",
    "sFRACTION ONE HALFrLIGATURE AYIN-DALETH"]⟩,
  ⟨0x10F30, [
    "aSOGDIAN LETTER ALEPHfBETHeGIMELfHEcWAWdZAYINfHETHeYODHeKAPHeLAMEDHgMEMdNUNdSAMEKHgAYINePEcSADHEfRESH-AYINjS",
    "HINeTAWdFETHeLESHlINDEPENDENT SHINqCOMBINING DOT BELOWjTWO DOTS BELOWoDOT ABOVEjTWO DOTS ABOVEoCURVE ABOVEfB",
    "ELOWlHOOK ABOVEfBELOWkLONG HOOK BELOWpRESH BELOWkSTROKE BELOWwNUMBER ONEdTENcWENTYgONE HUNDREDsPUNCTUATION T",
    "WO VERTICAL BARSa WITH DOTSzcCIRCLE WITH DOTpTWO CIRCLES WITH DOTSvHALF CIRCLE WITH DOT"]⟩,
  ⟨0x10F70, [
    "aOLD UYGHUR LETTER ALEPHfBETHeGIMEL-HETHkWAWdZAYINfFINAL HETHkYODHeKAPHeLAMEDHgMEMdNUNdSAMEKHgPEcSADHEfRESHe",
    "SHINeTAWdLESHlCOMBINING DOT ABOVEfBELOWjTWO DOTS ABOVEfBELOWyPUNCTUATION BARdTWO BARSeDOTSiFOUR DOTS"]⟩,
  ⟨0x10FB0, [
    "aCHORASMIAN LETTER ALEPHfSMALL ALEPHlBETHeGIMELfDALETHgHEcWAWdCURLED WAWkZAYINfHETHeYODHeKAPHeLAMEDHgMEMdNUN",
    "dSAMEKHgAYINePEcRESHeSHINeTAWkNUMBER ONEdTWOcHREEfFOUReTENcWENTYgONE HUNDRED"]⟩,
  ⟨0x10FE0, [
    "aELYMAIC LETTER ALEPHfBETHeGIMELfDALETHgHEcWAWdZAYINfHETHeTETHeYODHeKAPHeLAMEDHgMEMdNUNdSAMEKHgAYINePEcSADHE",
    "fQOPHeRESHeSHINeTAWjIGATURE ZAYIN-YODH"]⟩,
  ⟨0x11000, [
    "aBRAHMI SIGN CANDRABINDUlANUSVARAiVISARGAhJIHVAMULIYAlUPADHMANIYAqLETTER AaAcIaIcUaUcVOCALIC RaRcLaLkEbAIcOb",
    "AUcKAbHAdGAbHAdNGAdCAbHAdJAbHAdNYAdTTAbHAeDDAbHAeNNAdTAbHAdDAbHAdNAcPAbHAdBAbHAdMAcYAcRAcLAcVAcSHAcSAcAcHAcL",
    "LAdOLD TAMIL LLLAeRRAdNNNAvVOWEL SIGN AAcBHATTIPROLU AAoIaIcUaUcVOCALIC RaRcLaLkEbAIcObAUmIRAMAgDANDAeOUBLE ",
    "DANDAmPUNCTUATION DOTbUBLE DOTkLINEeCRESCENT BARmLOTUS"]⟩,
  ⟨0x11052, [
    "aBRAHMI NUMBER ONEdTWOcHREEfFOURdIVEeSIXcEVENfEIGHTfNINEeTENcWENTYfHIRTYgFORTYeIFTYfSIXTYeEVENTYhEIGHTYgNINE",
    "TYgONE HUNDREDhTHOUSANDtDIGIT ZEROeONEdTWOcHREEfFOURdIVEeSIXcEVENfEIGHTfNINEkSIGN OLD TAMIL VIRAMAvLETTER OL",
    "D TAMIL SHORT EbOyVOWEL SIGN OLD TAMIL SHORT EbOzdLETTER OLD TAMIL LLA"]⟩,
  ⟨0x1107F, [
    "aBRAHMI NUMBER JOINERuKAITHI SIGN CANDRABINDUlANUSVARAiVISARGAmLETTER AaAcIaIcUaUcEbAIcObAUcKAbHAdGAbHAdNGAd",
    "CAbHAdJAbHAdNYAdTTAbHAeDDAbDHAdHAeRHAdNNAdTAbHAdDAbHAdNAcPAbHAdBAbHAdMAcYAcRAcLAcVAcSHAcSAcAcHAjVOWEL SIGN A",
    "AcIaIcUaUcEbAIcObAUnSIGN VIRAMAgNUKTAkABBREVIATION SIGNrENUMERATION SIGNqNUMBER SIGNlSECTION MARKmDOUBLE SEC",
    "TION MARKsANDAeOUBLE DANDAmVOWEL SIGN VOCALIC R"]⟩,
  ⟨0x110CD, ["aKAITHI NUMBER SIGN ABOVE"]⟩,
  ⟨0x110D0, [
    "aSORA SOMPENG LETTER SAHdTAHdBAHdCAHdDAHdGAHdMAHdNGAHeLAHdNAHdVAHdPAHdYAHdRAHdHAHdKAHdJAHdNYAHeAHcEEHdIHcUHc",
    "OHcEHcMAE"]⟩,
  ⟨0x110F0, ["aSORA SOMPENG DIGIT ZEROeONEdTWOcHREEfFOURdIVEeSIXcEVENfEIGHTfNINE"]⟩,
  ⟨0x11100, [
    "aCHAKMA SIGN CANDRABINDUlANUSVARAiVISARGAmLETTER AAcIbUbEbKAAcHAAeGAAcHAAeNGAAeCAAcHAAeJAAcHAAeNYAAeTTAAcHAA",
    "fDDAAcHAAfNNAAeTAAcHAAeDAAcHAAeNAAdPAAcHAAeBAAcHAAeMAAdYYAAdAAdRAAdLAAdWAAdSAAdHAAkVOWEL SIGN AbIaIcUaUcEbAI",
    "cObAUcOInO MARKgAU MARKhVIRAMAgMAAYYAA"]⟩,
  ⟨0x11136, [
    "aCHAKMA DIGIT ZEROeONEdTWOcHREEfFOURdIVEeSIXcEVENfEIGHTfNINEkSECTION MARKmDANDAeOUBLE DANDAmQUESTION MARKnLE",
    "TTER LHAAlVOWEL SIGN AAcEInLETTER VAA"]⟩,
  ⟨0x11150, [
    "aMAHAJANI LETTER AbIbUbEbObKAbHAdGAbHAdCAbHAdJAbHAdNYAdTTAbHAeDDAbHAeNNAdTAbHAdDAbHAdNAcPAbHAdBAbHAdMAcRAcLA",
    "cVAcSAcHAcRRAkSIGN NUKTAkABBREVIATION SIGNrSECTION MARKmLIGATURE SHRI"]⟩,
  ⟨0x11180, [
    "aSHARADA SIGN CANDRABINDUlANUSVARAiVISARGAmLETTER AaAcIaIcUaUcVOCALIC RaRcLaLkEbAIcObAUcKAbHAdGAbHAdNGAdCAbH",
    "AdJAbHAdNYAdTTAbHAeDDAbHAeNNAdTAbHAdDAbHAdNAcPAbHAdBAbHAdMAcYAcRAcLAbLAdVAcSHAcSAcAcHAjVOWEL SIGN AAcIaIcUaU",
    "cVOCALIC RaRcLaLkEbAIcObAUnSIGN VIRAMAgAVAGRAHAiJIHVAMULIYAlUPADHMANIYAqOMcDANDAeOUBLE DANDAmABBREVIATION SI",
    "GNrSEPARATORiANDHI MARKkIGN NUKTAkVOWEL MODIFIER MARKtEXTRA SHORT VOWEL MARKwSUTRA MARKkVOWEL SIGN PRISHTHAM",
    "ATRA EzbSIGN INVERTED CANDRABINDUzaDIGIT ZEROeONEdTWOcHREEfFOURdIVEeSIXcEVENfEIGHTfNINEkEKAMeSIGN SIDDHAMmHE",
    "ADSTROKEkCONTINUATION SIGNrSECTION MARK-1b2"]⟩,
  ⟨0x111E1, [
    "aSINHALA ARCHAIC DIGIT ONEdTWOcHREEfFOURdIVEeSIXcEVENfEIGHTfNINEkNUMBER TENcWENTYfHIRTYgFORTYeIFTYfSIXTYeEVE",
    "NTYhEIGHTYgNINETYgONE HUNDREDhTHOUSAND"]⟩,
  ⟨0x11200, ["aKHOJKI LETTER AaAcIbUbEbAIcObAUcKAbHAdGAbGAcHAdNGAdCAbHAdJAbJA"]⟩,
  ⟨0x11213, [
    "aKHOJKI LETTER NYAdTTAbHAeDDAbHAeNNAdTAbHAdDAbDDAdHAdNAcPAbHAdBAbBAcHAdMAcYAcRAcLAcVAcSAcHAcLLAkVOWEL SIGN A",
    "AcIaIcUbEbAIcObAUnSIGN ANUSVARAiVIRAMAgNUKTAfSHADDAlDANDAeOUBLE DANDAmWORD SEPARATORoSECTION MARKmDOUBLE SEC",
    "TION MARKtABBREVIATION SIGNrSIGN SUKUN"]⟩,
  ⟨0x11280, ["aMULTANI LETTER AbIbUbEbKAbHAdGA"]⟩,
  ⟨0x11288, ["aMULTANI LETTER GHA"]⟩,
  ⟨0x1128A, ["aMULTANI LETTER CAbHAdJAbJA"]⟩,
  ⟨0x1128F, ["aMULTANI LETTER NYAdTTAbHAeDDAbDAcHAeNNAdTAbHAdDAbHAdNAcPAbHAdBA"]⟩,
  ⟨0x1129F, ["aMULTANI LETTER BHAdMAcYAcRAcLAcVAcSAcHAcRRAcHAkSECTION MARK"]⟩,
  ⟨0x112B0, [
    "aKHUDAWADI LETTER AaAcIaIcUaUcEbAIcObAUcKAbHAdGAbGAcHAdNGAdCAbHAdJAbJAcHAdNYAdTTAbHAeDDAbDAeRRAdDDHAeNNAdTAb",
    "HAdDAbHAdNAcPAbHAdBAbBAcHAdMAcYAcRAcLAcVAcSHAcAcHAjSIGN ANUSVARAnVOWEL SIGN AAcIaIcUaUcEbAIcObAUnSIGN NUKTAf",
    "VIRAMA"]⟩,
  ⟨0x112F0, ["aKHUDAWADI DIGIT ZEROeONEdTWOcHREEfFOURdIVEeSIXcEVENfEIGHTfNINE"]⟩,
  ⟨0x11300, ["aGRANTHA SIGN COMBINING ANUSVARA ABOVExANDRABINDUlANUSVARAiVISARGA"]⟩,
  ⟨0x11305, ["aGRANTHA LETTER AaAcIaIcUaUcVOCALIC RbL"]⟩,
  ⟨0x1130F, ["aGRANTHA LETTER EEcAI"]⟩,
  ⟨0x11313, ["aGRANTHA LETTER OOcAUcKAbHAdGAbHAdNGAdCAbHAdJAbHAdNYAdTTAbHAeDDAbHAeNNAdTAbHAdDAbHAdNA"]⟩,
  ⟨0x1132A, ["aGRANTHA LETTER PAbHAdBAbHAdMAcYAcRA"]⟩,
  ⟨0x11332, ["aGRANTHA LETTER LAbLA"]⟩,
  ⟨0x11335, ["aGRANTHA LETTER VAcSHAcSAcAcHA"]⟩,
  ⟨0x1133B, ["aCOMBINING BINDU BELOWvGRANTHA SIGN NUKTAfAVAGRAHAnVOWEL SIGN AAcIaIcUaUcVOCALIC RaR"]⟩,
  ⟨0x11347, ["aGRANTHA VOWEL SIGN EEcAI"]⟩,
  ⟨0x1134B, ["aGRANTHA VOWEL SIGN OOcAUnSIGN VIRAMA"]⟩,
  ⟨0x11350, ["aGRANTHA OM"]⟩,
  ⟨0x11357, ["aGRANTHA AU LENGTH MARK"]⟩,
  ⟨0x1135D, ["aGRANTHA SIGN PLUTAkLETTER VEDIC ANUSVARAiDOUBLE ANUSVARAuOCALIC RRcLLrVOWEL SIGN VOCALIC LaL"]⟩,
  ⟨0x11366, ["aCOMBINING GRANTHA DIGIT ZEROeONEdTWOcHREEfFOURdIVEeSIX"]⟩,
  ⟨0x11370, ["aCOMBINING GRANTHA LETTER AbKAcNAcVIcPA"]⟩,
  ⟨0x11400, [
    "aNEWA LETTER AaAcIaIcUaUcVOCALIC RaRcLaLkEbAIcObAUcKAbHAdGAbHAdNGAbHAeCAbHAdJAbHAdNYAbHAeTTAbHAeDDAbHAeNNAdT",
    "AbHAdDAbHAdNAbHAdPAbHAdBAbHAdMAbHAdYAcRAbHAdLAbHAdWAcSHAcSAcAcHAjVOWEL SIGN AAcIaIcUaUcVOCALIC RaRcLaLkEbAIc",
    "ObAUnSIGN VIRAMAgCANDRABINDUlANUSVARAiVISARGAhNUKTAfAVAGRAHAiFINAL ANUSVARAtOMcSIDDHIgDANDAeOUBLE DANDAmCOMM",
    "AfGAP FILLERkABBREVIATION SIGNrDIGIT ZEROeONEdTWOcHREEfFOURdIVEeSIXcEVENfEIGHTfNINEjOUBLE COMMAmPLACEHOLDER ",
    "MARK"]⟩,
  ⟨0x1145D, ["aNEWA INSERTION SIGNoSANDHI MARKlLETTER VEDIC ANUSVARAvSIGN JIHVAMULIYAlUPADHMANIYA"]⟩,
  ⟨0x11480, [
    "aTIRHUTA ANJIeLETTER AaAcIaIcUaUcVOCALIC RaRcLaLkEbAIcObAUcKAbHAdGAbHAdNGAdCAbHAdJAbHAdNYAdTTAbHAeDDAbHAeNNA",
    "dTAbHAdDAbHAdNAcPAbHAdBAbHAdMAcYAcRAcLAcVAcSHAcSAcAcHAjVOWEL SIGN AAcIaIcUaUcVOCALIC RaRcLaLkEbSHORT EhAIcOb",
    "SHORT OhAUnSIGN CANDRABINDUlANUSVARAiVISARGAfRAMAgNUKTAfAVAGRAHAnGVANGfABBREVIATION SIGNrOM"]⟩,
  ⟨0x114D0, ["aTIRHUTA DIGIT ZEROeONEdTWOcHREEfFOURdIVEeSIXcEVENfEIGHTfNINE"]⟩,
  ⟨0x11580, [
    "aSIDDHAM LETTER AaAcIaIcUaUcVOCALIC RaRcLaLkEbAIcObAUcKAbHAdGAbHAdNGAdCAbHAdJAbHAdNYAdTTAbHAeDDAbHAeNNAdTAbH",
    "AdDAbHAdNAcPAbHAdBAbHAdMAcYAcRAcLAcVAcSHAcSAcAcHAjVOWEL SIGN AAcIaIcUaUcVOCALIC RaR"]⟩,
  ⟨0x115B8, [
    "aSIDDHAM VOWEL SIGN EbAIcObAUnSIGN CANDRABINDUlANUSVARAiVISARGAfRAMAgNUKTAfSIDDHAMmDANDAeOUBLE DANDAmSEPARAT",
    "OR DOTdBARnREPETITION MARK-1b2b3rEND OF TEXT MARKqSECTION MARK WITH TRIDENT AND U-SHAPED ORNAMENTSsDOTTED CR",
    "ESCENTSzdRAYS AND DOTTED CRESCENTSjDOUBLE CRESCENTSqTRIPLE CRESCENTSzmDOUBLE RINGa WITH RAYSvWITH DOUBLE CRE",
    "SCENTSqTRIPLE CRESCENTSqQUADRUPLE CRESCENTStSEPTUPLE CRESCENTSsCIRCLES AND RAYSeTWO ENCLOSURESoFOUR ENCLOSUR",
    "ESzuLETTER THREE-CIRCLE ALTERNATE IxWO-CIRCLE ALTERNATE IaIxALTERNATE UsVOWEL SIGN ALTERNATE UaU"]⟩,
  ⟨0x11600, [
    "aMODI LETTER AaAcIaIcUaUcVOCALIC RaRcLaLkEbAIcObAUcKAbHAdGAbHAdNGAdCAbHAdJAbHAdNYAdTTAbHAeDDAbHAeNNAdTAbHAdD",
    "AbHAdNAcPAbHAdBAbHAdMAcYAcRAcLAcVAcSHAcSAcAcHAcLLAkVOWEL SIGN AAcIaIcUaUcVOCALIC RaRcLaLkEbAIcObAUnSIGN ANUS",
    "VARAiVISARGAfRAMAgARDHACANDRAqDANDAeOUBLE DANDAmABBREVIATION SIGNrSIGN HUVA"]⟩,
  ⟨0x11650, ["aMODI DIGIT ZEROeONEdTWOcHREEfFOURdIVEeSIXcEVENfEIGHTfNINE"]⟩,
  ⟨0x11660, [
    "aMONGOLIAN BIRGA WITH ORNAMENTtROTATED BIRGAnDOUBLE BIRGA WITH ORNAMENTzbTRIPLE BIRGA WITH ORNAMENTzbBIRGA W",
    "ITH DOUBLE ORNAMENTzbROTATED BIRGA WITH ORNAMENTiDOUBLE ORNAMENTzjINVERTED BIRGAa WITH DOUBLE ORNAMENTzkSWIR",
    "L BIRGAa WITH ORNAMENTiDOUBLE ORNAMENTzhTURNED SWIRL BIRGA WITH DOUBLE ORNAMENT"]⟩,
  ⟨0x11680, [
    "aTAKRI LETTER AaAcIaIcUaUcEbAIcObAUcKAbHAdGAbHAdNGAdCAbHAdJAbHAdNYAdTTAbHAeDDAbHAeNNAdTAbHAdDAbHAdNAcPAbHAdB",
    "AbHAdMAcYAcRAcLAcVAcSHAcAcHAcRRAkSIGN ANUSVARAiVISARGAmVOWEL SIGN AAcIaIcUaUcEbAIcObAUnSIGN VIRAMAgNUKTAkLET",
    "TER ARCHAIC KHAsABBREVIATION SIGN"]⟩,
  ⟨0x116C0, ["aTAKRI DIGIT ZEROeONEdTWOcHREEfFOURdIVEeSIXcEVENfEIGHTfNINE"]⟩,
  ⟨0x11700, [
    "aAHOM LETTER KAbHAdNGAcAcTAcALTERNATE TAmPAbHAdBAcMAcJAcCHAdTHAdRAcLAcSAcNYAdHAcAbDAbHAdGAcALTERNATE GAmGHAd",
    "BHAdJHAdALTERNATE BA"]⟩,
  ⟨0x1171D, ["aAHOM CONSONANT SIGN MEDIAL LAcRAcLIGATING RAziVOWEL SIGN AaAcIaIcUaUcEbAWcObAIbMnSIGN KILLER"]⟩,
  ⟨0x11730, [
    "aAHOM DIGIT ZEROeONEdTWOcHREEfFOURdIVEeSIXcEVENfEIGHTfNINEkNUMBER TENcWENTYnSIGN SMALL SECTIONmECTIONhRULAIj",
    "YMBOL VIjLETTER CAcTTAbHAeDDAbHAeNNAdLLA"]⟩,
  ⟨0x11800, [
    "aDOGRA LETTER AaAcIaIcUaUcEbAIcObAUcKAbHAdGAbHAdNGAdCAbHAdJAbHAdNYAdTTAbHAeDDAbHAeNNAdTAbHAdDAbHAdNAcPAbHAdB",
    "AbHAdMAcYAcRAcLAcVAcSHAcSAcAcHAcRRAkVOWEL SIGN AAcIaIcUaUcVOCALIC RaRkEbAIcObAUnSIGN ANUSVARAiVISARGAfRAMAgN",
    "UKTAkABBREVIATION SIGN"]⟩,
  ⟨0x118A0, [
    "aWARANG CITI CAPITAL LETTER NGAAeAbWIcYUbAbOcIIcUUcEbObANGdGAcKOcENYdYUJdUCcENNdODDdTTEdNUNGeDAcATbMcBUcPUcH",
    "IYOdOLOcRRdARdSSUUdIIdVIYOtSMALL LETTER NGAAeAbWIcYUbAbOcIIcUUcEbObANGdGAcKOcENYdYUJdUCcENNdODDdTTEdNUNGeDAc",
    "ATbMcBUcPUcHIYOdOLOcRRdARdSSUUdIIdVIYOrDIGIT ZEROeONEdTWOcHREEfFOURdIVEeSIXcEVENfEIGHTfNINEkNUMBER TENcWENTY",
    "fHIRTYgFORTYeIFTYfSIXTYeEVENTYhEIGHTYgNINETY"]⟩,
  ⟨0x118FF, ["aWARANG CITI OMoDIVES AKURU LETTER AaAcIaIcUaUcE"]⟩,
  ⟨0x11909, ["aDIVES AKURU LETTER O"]⟩,
  ⟨0x1190C, ["aDIVES AKURU LETTER KAbHAdGAbHAdNGAdCAbHAdJA"]⟩,
  ⟨0x11915, ["aDIVES AKURU LETTER NYAdTTA"]⟩,
  ⟨0x11918, [
    "aDIVES AKURU LETTER DDAbHAeNNAdTAbHAdDAbHAdNAcPAbHAdBAbHAdMAcYAbYAdRAcLAcVAcSHAcSAcAcHAcLLAdZAjVOWEL SIGN AA",
    "cIaIcUaUcE"]⟩,
  ⟨0x11937, ["aDIVES AKURU VOWEL SIGN AIcO"]⟩,
  ⟨0x1193B, [
    "aDIVES AKURU SIGN ANUSVARAiCANDRABINDUlHALANTAmVIRAMAgPREFIXED NASAL SIGNtMEDIAL YAjINITIAL RAkMEDIAL RAjSIG",
    "N NUKTAkDOUBLE DANDAmGAP FILLERkEND OF TEXT MARK"]⟩,
  ⟨0x11950, ["aDIVES AKURU DIGIT ZEROeONEdTWOcHREEfFOURdIVEeSIXcEVENfEIGHTfNINE"]⟩,
  ⟨0x119A0, ["aNANDINAGARI LETTER AaAcIaIcUaUcVOCALIC RaR"]⟩,
  ⟨0x119AA, [
    "aNANDINAGARI LETTER EbAIcObAUcKAbHAdGAbHAdNGAdCAbHAdJAbHAdNYAdTTAbHAeDDAbHAeNNAdTAbHAdDAbHAdNAcPAbHAdBAbHAdM",
    "AcYAcRAcLAcVAcSHAcSAcAcHAcLLAdRRAkVOWEL SIGN AAcIaIcUaUcVOCALIC RaR"]⟩,
  ⟨0x119DA, [
    "aNANDINAGARI VOWEL SIGN EbAIcObAUnSIGN ANUSVARAiVISARGAfRAMAgAVAGRAHAiSIDDHAMmHEADSTROKEkVOWEL SIGN PRISHTHA",
    "MATRA E"]⟩,
  ⟨0x11A00, [
    "aZANABAZAR SQUARE LETTER AiVOWEL SIGN IbUEcUbEbOEcObAIbUcREVERSED IpLENGTH MARKrLETTER KAbHAdGAbHAdNGAdCAbHA",
    "dJAcNYAdTTAbHAeDDAbHAeNNAdTAbHAdDAbHAdNAcPAbHAdBAbHAdMAcTSAbHAeDZAbHAeZHAcAc-AcYAcRAcLAcVAcSHAcSAcAcHAcKSSAl",
    "FINAL CONSONANT MARKuSIGN VIRAMAgCANDRABINDUa WITH ORNAMENTt WITH ORNAMENTuANUSVARAiVISARGAmCLUSTER-INITIAL ",
    "LETTER RArFINAL LETTER YAcRAcLAcVAxINITIAL HEAD MARKrCLOSING HEAD MARKrMARK TSHEGfSHADeDOUBLE SHADlLONG TSHE",
    "GpINITIAL DOUBLE-LINED HEAD MARKzfCLOSING DOUBLE-LINED HEAD MARKzfSUBJOINER"]⟩,
  ⟨0x11A50, [
    "aSOYOMBO LETTER AiVOWEL SIGN IbUEcUbEbOaEcAIbUcVOCALIC RbLoLENGTH MARKrLETTER KAbHAdGAbHAdNGAdCAbHAdJAbHAdNY",
    "AdTTAbHAeDDAbHAeNNAdTAbHAdDAbHAdNAcPAbHAdBAbHAdMAcTSAbHAeDZAdZHAcAc-AcYAcRAcLAcVAcSHAcSAcAcHAcKSSAlSIGN JIHV",
    "AMULIYAlUPADHMANIYAqCLUSTER-INITIAL LETTER RAcLAcSHAcAzaFINAL CONSONANT SIGN GbKbNGcDbNbBbMbRbLbSHcSb-AxSIGN",
    " ANUSVARAiVISARGAmGEMINATION MARKpSUBJOINERjMARK TSHEGfSHADeDOUBLE SHADlPLUTAkHEAD MARK WITH MOON AND SUN AN",
    "D TRIPLE FLAMEmFLAMElNzcTERMINAL MARK-1b2"]⟩,
  ⟨0x11AB0, [
    "aCANADIAN SYLLABICS NATTILIK HIaIcOaOcAaAdSHRIaIcOaOcAaAoSPEbIbObAwPAU CIN HAU LETTER PAcKAcLAcMAcDAcZAcVAcN",
    "GAdHAcGAcKHAdSAcBAcCAcTAbHAdNAcPHAdRAcFAcCHAdAbEbIbObUaAcIAcFINAL PbKbTbMbNbLbWbNGcYoRISING TONE LONGgElSAND",
    "HI GLOTTAL STOPtRISING TONE LONG FINALkFINALrSANDHI GLOTTAL STOP FINALsTONE LONGgEa LONG FINALkFINALrMID-LEV",
    "EL TONEoGLOTTAL STOP VARIANTuMID-LEVEL TONE LONG FINALkFINALuLOW-FALLING TONE LONGgEqGLOTTAL STOPmLOW-FALLIN",
    "G TONE LONG FINALkFINALwGLOTTAL STOP FINAL"]⟩,
  ⟨0x11C00, ["aBHAIKSUKI LETTER AaAcIaIcUaUcVOCALIC RaRcL"]⟩,
  ⟨0x11C0A, [
    "aBHAIKSUKI LETTER EbAIcObAUcKAbHAdGAbHAdNGAdCAbHAdJAbHAdNYAdTTAbHAeDDAbHAeNNAdTAbHAdDAbHAdNAcPAbHAdBAbHAdMAc",
    "YAcRAcLAcVAcSHAcSAcAcHAjVOWEL SIGN AAcIaIcUaUcVOCALIC RaRcL"]⟩,
  ⟨0x11C38, [
    "aBHAIKSUKI VOWEL SIGN EbAIcObAUnSIGN CANDRABINDUlANUSVARAiVISARGAfRAMAgAVAGRAHAnDANDAeOUBLE DANDAmWORD SEPAR",
    "ATORoGAP FILLER-1b2"]⟩,
  ⟨0x11C50, [
    "aBHAIKSUKI DIGIT ZEROeONEdTWOcHREEfFOURdIVEeSIXcEVENfEIGHTfNINEkNUMBER ONEdTWOcHREEfFOURdIVEeSIXcEVENfEIGHTf",
    "NINEeTENcWENTYfHIRTYgFORTYeIFTYfSIXTYeEVENTYhEIGHTYgNINETYnHUNDREDS UNIT MARK"]⟩,
  ⟨0x11C70, [
    "aMARCHEN HEAD MARKjMARK SHADjLETTER KAbHAdGAcNGAdCAbHAdJAcNYAdTAbHAdDAcNAcPAbHAdBAcMAcTSAbHAeDZAdWAcZHAcAc-A",
    "cYAcRAcLAcSHAcAcHAcA"]⟩,
  ⟨0x11C92, ["aMARCHEN SUBJOINED LETTER KAbHAdGAcNGAdCAbHAdJAcNYAdTAbHAdDAcNAcPAbHAdBAcMAcTSAbHAeDZAdWAcZHAcA"]⟩,
  ⟨0x11CA9, ["aMARCHEN SUBJOINED LETTER YAcRAcLAcSHAcAcHAcAsVOWEL SIGN AAcIbUbEbOmSIGN ANUSVARAiCANDRABINDU"]⟩,
  ⟨0x11D00, ["aMASARAM GONDI LETTER AaAcIaIcUaUcE"]⟩,
  ⟨0x11D08, ["aMASARAM GONDI LETTER AIcO"]⟩,
  ⟨0x11D0B, [
    "aMASARAM GONDI LETTER AUcKAbHAdGAbHAdNGAdCAbHAdJAbHAdNYAdTTAbHAeDDAbHAeNNAdTAbHAdDAbHAdNAcPAbHAdBAbHAdMAcYAc",
    "RAcLAcVAcSHAcSAcAcHAcLLAdKSSAeJNYAeTRAkVOWEL SIGN AAcIaIcUaUcVOCALIC R"]⟩,
  ⟨0x11D3A, ["aMASARAM GONDI VOWEL SIGN E"]⟩,
  ⟨0x11D3C, ["aMASARAM GONDI VOWEL SIGN AIcO"]⟩,
  ⟨0x11D3F, ["aMASARAM GONDI VOWEL SIGN AUnSIGN ANUSVARAiVISARGAhNUKTAfCANDRAgHALANTAmVIRAMAgREPHAeA-KARA"]⟩,
  ⟨0x11D50, ["aMASARAM GONDI DIGIT ZEROeONEdTWOcHREEfFOURdIVEeSIXcEVENfEIGHTfNINE"]⟩,
  ⟨0x11D60, ["aGUNJALA GONDI LETTER AaAcIaIcUaU"]⟩,
  ⟨0x11D67, ["aGUNJALA GONDI LETTER EEcAI"]⟩,
  ⟨0x11D6A, [
    "aGUNJALA GONDI LETTER OOcAUcYAcVAcBAbHAdMAcKAbHAdTAbHAdLAcGAbHAdDAbHAdNAcCAbHAdTTAbHAeLLAdJAbHAdDDAbHAeNGAdP",
    "AbHAdHAcRAcSAjVOWEL SIGN AAcIaIcUaU"]⟩,
  ⟨0x11D90, ["aGUNJALA GONDI VOWEL SIGN EEcAI"]⟩,
  ⟨0x11D93, ["aGUNJALA GONDI VOWEL SIGN OOcAUnSIGN ANUSVARAiVISARGAmVIRAMAgOM"]⟩,
  ⟨0x11DA0, ["aGUNJALA GONDI DIGIT ZEROeONEdTWOcHREEfFOURdIVEeSIXcEVENfEIGHTfNINE"]⟩,
  ⟨0x11EE0, [
    "aMAKASAR LETTER KAcGAcNGAdPAcBAcMAcTAcDAcNAcCAcJAcNYAdYAcRAcLAcVAcSAcAiANGKAfVOWEL SIGN IbUbEbOmPASSIMBANGkE",
    "ND OF SECTION"]⟩,
  ⟨0x11FB0, ["aLISU LETTER YHA"]⟩,
  ⟨0x11FC0, [
    "aTAMIL FRACTION ONE THREE-HUNDRED-AND-TWENTIETHzcONE-HUNDRED-AND-SIXTIETHyEIGHTIETHjSIXTY-FOURTHmFORTIETHiTH",
    "IRTY-SECONDrTHREE EIGHTIETHSkSIXTY-FOURTHStONE TWENTIETHjSIXTEENTH-1b2lTENTHfEIGHTHkTHREE TWENTIETHSkSIXTEEN",
    "THSqONE FIFTHfQUARTERhHALF-1b2kTHREE QUARTERSoDOWNSCALING FACTOR KIIZHziSIGN NELdCEVITUgAAZHAAKKUjUZHAKKUhMU",
    "UVUZHAKKUlKURUNIgPATHAKKUiMUKKURUNIjKAACUfPANAMeONdVARAAKANiPAARAMgKUZHIfVELIjWET CULTIVATION SIGNuDRY CULTI",
    "VATION SIGNuLAND SIGNjSALT PAN SIGNnTRADITIONAL CREDIT SIGNlNUMBER SIGNxCURRENT SIGNmAND ODD SIGNmSPENT SIGN",
    "kTOTAL SIGNkIN POSSESSION SIGNsSTARTING FROM SIGNrIGN MUTHALIYAjVAKAIYARAA"]⟩,
  ⟨0x11FFF, [
    "aTAMIL PUNCTUATION END OF TEXTzeCUNEIFORM SIGN Aa TIMES AbBADdGAN2 TENUjHAcIGIdLAGAR GUNUkMUSHeSAGk2bBa TIME",
    "S ASH2eDUN3 GUNUjGALbN2 TENUjHAcIGI GUNUhMINeLAGABfSHESHfU PLUS U PLUS UvGUNUf2a TIMES BALAGfGAN2 TENUjME PL",
    "US ENkSHA3eTAK4nDbKa TIMES ERIN2fSHITA PLUS GISHxLa TIMES ALcDIM2eGISHeHAcKAD3dIcSHEdUSHkANcEPHeMARa TIMES S",
    "HEnNa OVER ANhTHREE TIMESlPLUS NAGA OPPOSING AN PLUS NAGAvSQUAREDsSHEePINdRADa TIMES KURmKABeSAL2dHa ZIDA TE",
    "NUjKABA TENUjOVER ASH TUG2 OVER TUG2 TUG2 OVER TUG2 PAPziOVER ASHa CROSSING ASH OVER ASH OVER ASHzy2bGABgBAa",
    "DbG3cHAR2eLa OVER BALjAGdRaA2eIa TIMES AbGARdIGI GUNUqUa OVER BU ABcUNkCROSSING BUmLUGa OVER BULUGoRa2eDAaGa",
    " KISIM5 TIMES A PLUS MASHkMAReBALAGeIcGAa PLUS MASHlIaR2dUDdHAcIRa PLUS LUkKAKdLAbUa PLUS MASH2lMdNEcPAP PLU",
    "S PAPmSIcTAK4eU2 PLUS GIR2lSHsMbRaA3b4eIaBbMa TIMES SHEk2cNa KASKAL U GUNU DISHuSHdUa OVER DUhGUNUeSHESHIGiB",
    "a TIMES ESH2l2cGaUDdHbNa3a GUNUa GUNUl4cR2eEa TIMES PAPjOVER E NUN OVER NUNu2a TIMES A PLUS HA PLUS DArGARdM",
    "IcSALcHEdUjDINdGIRdLbNa TIMES GAN2a TENUjMEiCROSSING ENlOPPOSING ENlSQUAREDjRENcIN2eSH2dZENa TIMES Aa PLUS L",
    "ALa TIMES LALtNcBADdDUN3 GUNUa GUNUoHAa GUNUhIGI GUNUiKASKALa SQUAREDnU3dLAaL TIMES LALmIbUcU2bDnGAa GUNUf2a",
    " TIMES A PLUS DA PLUS HAkHAcIGIjB2 TENU PLUS TABqNbSHa2 PLUS GALnBADbR PLUS RAkURa PLUS RAlDAbIaM TIMES SHEm",
    "UBdELa PLUS LAjNa TIMES GAN2 TENUsGAN2 TENUhRcIa4a PLUS AiR2 PLUS SUmHA PLUS LU PLUS ESH2sLa PLUS LAkI PLUS ",
    "LIjUB2eIGI GUNUhSH PLUS HU PLUS ASHuKAKbSKALfIDa PLUS LALlU3 PLUS ANlLAcME PLUS ENjIcNUNa OVER NUNmPAcSALbRc",
    "HEa PLUS TURkIDdUMdTAK4eUaDa PLUS DUqOVER GA2kBAa CROSSING GABAqDa OVER GAD GAR OVER GARxLa GAD OVER GAD GAR",
    " OVER GARzbAMdMbNa2a TENUeOVER GAN2jCROSSING GAN2qRa3cSHANfESHTINa TIMES KURqIa TIMES EbUhCROSSING GIm4a OVE",
    "R GI4iCROSSING GI4oDIMdR2a GUNUg3a TIMES A PLUS IGIkGAN2 TENUjIGIdLU PLUS IGIlPAlSALcHa CROSSING GISHnTIMES ",
    "BADdTAK4jENUiUa CROSSING GUm2a TIMES KAKa TIMES IGI GUNUsNUNdSAL PLUS TUG2tGUNUgDa TIMES A PLUS KURkKURjOVER",
    " GUD LUGALqLbMa TIMES SHElRa7bUNbSHgHAa TENUeGUNUfLcIa TIMES ASHa2eBADdDISHeGADdKINdNUNdSHEdUjUaB2a TIMES AN",
    "cHALdKASKALgLISHeUDlL2eIa AcBbDIMa OVER IDIM BURdSQUAREDvGaIa DIBdRIcOVER IGI SHIR OVER SHIR UD OVER UDzjGUN",
    "UhLa TIMES GAN2 TENUq2cMa TIMES TAK4kCROSSING IMlOPPOSING IMlSQUAREDiINdNbRbSHdKAa TIMES AaDa PLUS KU3kSH2eB",
    "ADbLAGdRcIcERIN2eSH2eGAaLbN2 TENUhRa PLUS SHA3 PLUS AtIaR2cSH PLUS SARiCROSSING GISHrUaR7eIGIcMcKAKcIaDdLIbU",
    "cMEa PLUS DUcGIcTEjIa PLUS NUNUZnNEbUNdPIcRUcSAaRcHAbEbIDcUcIGcUHURfTARdUa2bDbMUM TIMES PAmSHdZIj2a CROSSING",
    " KA2oBbD2b3b4b5a OVER KAD5mKa TIMES IGI GUNUqLa TIMES BADjCROSSING KALoM2b4cSKALa LAGAB TIMES U OVER LAGAB T",
    "IMES UzhOVER KASKAL LAGAB TIMES U OVER LAGAB TIMES UzzaESH2eIa TIMES BADdUaDjDbNbSALcHbIM5a OVER KISIM5rUa O",
    "VER HI TIMES ASH2 KU OVER HI TIMES ASH2zq3b4a VARIANT FORMo7bLa GUNUgNbRa OPPOSING KURoSHU2fWU318gLAaGABa TI",
    "MES Aa PLUS DA PLUS HAkGARdLALjLbNbSH ZIDA TENUnBADcIcDARdENcGAaRcUDa PLUS GUDmHAaLcI TIMES NUNmIGI GUNUhMa ",
    "PLUS HAcLUkKIaNcU3bLa PLUS HI PLUS AsLAGABeISHdUaLdMEa PLUS ENjUSHeNEcSHE PLUS SUMkITA PLUS GISH PLUS ERIN2k",
    "TENUsU2a PLUS SHU2nUMdTAGbK4dE PLUS A PLUS SU PLUS NAzaUa PLUS AbU PLUS Uo2 PLUS ASHkDbSHjSQUAREDjRa TIMES S",
    "HEa PLUS SUMsGUNUa OVER LAGAR GUNU SHEzdHSHUeLa TIMES LALlMa TIMES KURa PLUS RUuIaLbMMU2eSHdUa TIMES BADk2a ",
    "TIMES ALcBADdESH2a TENUjGAN2 TENUjHI TIMES BADmIMcKAD2b3a PLUS ASHmIcLA PLUS ASHjGABfME PLUS ENkNEbUcSI PLUS",
    " ASHjK2 PLUS BUmTUG2jENUeCROSSING LU2mOPPOSING LU2mSQUAREDgHESHIGj3bGALa OVER LUGALjPPOSING LUGALoSHESHIGlHb",
    "LbMa OVER LUMa GAR OVER GARzaMAa TIMES TAK4kGUNUf2bHbRbSHa2eEaScIaNcUa OVER MUiGa GUNUgNSUBeRGU2eSHa TIMES A",
    "bKURdZAiOVER MUSHa TIMES A PLUS NAzaCROSSING MUSHo3a TIMES Aa PLUS DIjDIiGUNUkNAa2bGAa INVERTEDiTIMES SHU TE",
    "NUoOPPOSING NAGAoRdM NUTILLUjMa2dEa TIMES AbUDiSHESHIGjIa TIMES Ei2bMa TIMES GAN2 TENUhR PLUS GAN2 TENUzbNDA",
    "2a TIMES ANbSHa PLUS ASHmGUDdME PLUS GAN2 TENUrNEbUNdSHEa PLUS A ANdSHa PLUS ASHvU2 PLUS ASHkSHoSAGeUa11cNa ",
    "LAGAR TIMES GARdMASHeSALa OVER NUN LAGAR TIMES SALzdUSHpTENUeOVER NUNiCROSSING NUNa LAGAR OVER LAGARzfUZa AB",
    "2 TIMES ASHGABgBIcDUGdGUDdIGI GUNUiKAD3eLAcNEcSILA3fU2mKISIM5 TIMES BIa UxPAaDbNbPcESH2eIa TIMES AaBcBIbUcEb",
    "IaBcUa2iCROSSING PImRIGa TIMES KALdUDcZAiOPPOSING PIRIGuRAaBcIbUcSAaG NUTILLUjGa TIMES AbDUaBdHAcKAKcURdLUMd",
    "MIcNUNdSALcHIDeTABdU2bBbMbRbSHjOVER SAGiGUNUgLa LAGAB TIMES ASH2sNGA2eRcHAa3a TIMES AbBADdGISHeNEcSHU2eTURdU",
    "a PLUS Aq6bB6cR2dEa HUcOVER SHE GAD OVER GAD GAR OVER GARzaTAB OVER TAB GAR OVER GARzkG9cNbSHa2bLAMgIDa TIME",
    "S AbIMkMa TIMES AbBALcULUGfDINdGARdIGIa GUNUiKUSHU2gLULdMUGdSALlNIGdRa TENUeOVER SHIR BUR OVER BURyTAdUa OVE",
    "R INVERTED SHUs2bBURfIa GUNUfGa4a OVER SIG4 SHU2rK2cLA3eUa OVER SUiDa2cHURdMaASHeRa9eTAa ASTERISKiTIMES HIcM",
    "IiGUNUfBa OVER TAB NI OVER NI DISH OVER DISHzjSQUAREDjGa TIMES BIcGUDdSHEbUdTUG2eUDkK4cRcEa GUNUgIa TENUfLbR",
    "a TIMES TAK4kOVER TIRa GAD OVER GAD GAR OVER GARzmUaG2cKbMbRa OVER TUR ZA OVER ZAxUa GUDdU UdOVER U PA OVER ",
    "PA GAR OVER GARxSUR OVER SURmU REVERSED OVER U REVERSEDzj2bBbDa KUSHU2gTIMES BADdMIcU PLUS U PLUS Ua GUNUzbG",
    "UNUeSHESHIGa TIMES BADsUGdMa TIMES LAGABfME PLUS DAkSHA3eUiBINdUMa TIMES KASKALgPAmNa GUNUgRa CROSSING URlSH",
    "ESHIGi2a TIMES A PLUS HAcNAiLcHAcNUNdU2a PLUS ASHdBIs4bIa3cUa TIMES AaSHGABgBARdDUNdGAaLbN2 TENUhRcUcHAcIGIc",
    "MbSHdKIcLUMdMINdPAcSHEcIG4eTUcU PLUS GUDjDbRUDAmDAa TIMES UmSHa TIMES AbKUaRdTAK4lXb2bUMXfTUKIeZ3a TIMES KAS",
    "KALoUdZAa TENUeSQUARED TIMES KURsGbMXdE2cIa OVER ZIi3bBa KABA TENUlGbZ2dUa5a TIMES AjBURdMdKAP ELAMITElAB TI",
    "MES NUNk2 TIMES AkMAR TIMES KUGoDAG KISIM5 TIMES U2 PLUS MASHzb3dISH PLUS SHUmUB TIMES SHEnEZEN TIMES GUDdSH",
    "EoGA2 TIMES AN PLUS KAK PLUS ArSH2nE22dIGdHUSHeKA TIMES ANSHEeSH3eGISHdUDdHI TIMES ASH2nLUMdPAcSHULeTUcUR2mL",
    "AGAB TIMES GInU2 SHESHIG TIMES BADrTIMES ESH2 PLUS LALnSHUnMESHdUSH3 TIMES ZAoNA4cINa9bDA2 TIMES BALdGIoU11 ",
    "ROTATED NINETY DEGREESzcPESH2 ASTERISKnIR2eSAG TIMES IGI GUNUsTI2dUM TIMES MEk U"]⟩,
  ⟨0x12400, [
    "aCUNEIFORM NUMERIC SIGN TWO ASHgHREE ASHjFOUR ASHhIVE ASHiSIX ASHgEVEN ASHjEIGHT ASHjNINE ASHiTHREE DISHkFOU",
    "R DISHiIVE DISHjSIX DISHhEVEN DISHkEIGHT DISHkNINE DISHjFOUR UfIVE UgSIX UeEVEN UhEIGHT UhNINE UgONE GESH2jT",
    "WO GESH2iHREE GESH2lFOUR GESH2jIVE GESH2kSIX GESH2iEVEN GESH2lEIGHT GESH2lNINE GESH2kONE GESHUjTWO GESHUiHRE",
    "E GESHUlFOUR GESHUjIVE GESHUkTWO SHAR2iHREE SHAR2a VARIANT FORMyFOUR SHAR2jIVE SHAR2kSIX SHAR2iEVEN SHAR2lEI",
    "GHT SHAR2lNINE SHAR2kONE SHARUjTWO SHARUiHREE SHARUa VARIANT FORMyFOUR SHARUjIVE SHARUkSHAR2 TIMES GAL PLUS ",
    "DISHeMINyONE BURUiTWO BURUhHREE BURUa VARIANT FORMxFOUR BURUiIVE BURUjTHREE VARIANT FORM ESH16c21yFOUR VARIA",
    "NT FORM LIMMUa4b AbBzaSIX VARIANT FORM ASH9uEVEN VARIANT FORM IMIN3b AbBzaEIGHT VARIANT FORM USSUa3yNINE VAR",
    "IANT FORM ILIMMUa3b4b AzbTWO ASH TENUlHREE ASH TENUoFOUR ASH TENUmIVE ASH TENUnSIX ASH TENUmONE BAN2iTWO BAN",
    "2hHREE BAN2kFOUR BAN2a VARIANT FORMvIVE BAN2a VARIANT FORMwNIGIDAMINdESHjONE ESHE3jTWO ESHE3jONE THIRD DISHo",
    "TWO THIRDS DISHpFIVE SIXTHS DISHqONE THIRD VARIANT FORM AyTWO THIRDS VARIANT FORM AzaONE EIGHTH ASHkQUARTER ",
    "ASHoLD ASSYRIAN ONE SIXTHfQUARTERxNE QUARTER GURlHALF GURmELAMITE ONE THIRDjTWO THIRDSkFORTYeIFTYnFOUR U VAR",
    "IANT FORMsIVE U VARIANT FORMtSIX U VARIANT FORMrEVEN U VARIANT FORMuEIGHT U VARIANT FORMuNINE U VARIANT FORM"]⟩,
  ⟨0x12470, [
    "aCUNEIFORM PUNCTUATION SIGN OLD ASSYRIAN WORD DIVIDERzaVERTICAL COLONoDIAGONAL COLONfTRICOLONiQUADCOLON"]⟩,
  ⟨0x12480, [
    "aCUNEIFORM SIGN AB TIMES NUN TENUiSHU2mD TIMES ESH2nBAD TIMES DISH TENUrHAR2 TIMES AB2dNIcZAoU OVER BU TIMES",
    " NA2uDA TIMES TAK4lG TIMES KURmIM TIMES IGIdU U Um2 TIMES UDmUG TIMES ANSHEeSHa AT LEFTlDINcUNdERIN2fGAbIaR2",
    " GUNUhSHeHAbIcIGI GUNUiKASKALfURbSHU2a PLUS KASKALsLAK-020fMa TIMES KURmUH PLUS GISHnMASHdEScIcNIcPIcSHEcI G",
    "UNUrE2 TIMES KURdPAPlRIN2 XgSH2 CROSSING ESH2rZEN SHESHIG TIMES ASHdHIcIGI GUNUiLAaLdMEaSdSUqTIMES SUnGA2 TI",
    "MES BAHAR2gDIM GUNUhUG TIMES IGI GUNUiKASKALqERENeGAaR PLUS DIcNElHA PLUS AjKUSHU2 PLUS KASKALsLAMa TIMES KU",
    "RmUHdMUSHeNEa PLUS E2cGIkSHIMeZIZ2mBA ROTATED NINETY DEGREESzbESHTIN TIMES UoISH TIMES GISH CROSSING GISHzdU",
    "2 TIMES IGI GUNUqD PLUS GISH TIMES TAK4yHA TENU GUNUlI TIMES ASH OVER HI TIMES ASHzfKA TIMES BUcKAcU U UeRlL",
    "AGAB TIMES ZU OVER ZUuK-003c21b5c30c50b1c62c79 OVER LAK-079 GUNUu80b1 OVER LAK-081p92d130c42d210b9c20b5b8c38",
    "c65b6d343b7b8c83b4c90d441b9a TIMES GUcIGIdPAP PLUS LU3dPAP PLUS LU3vU2 PLUS BAt50b7c70c83c90b2b3b5d550d608c1",
    "7a TIMES ASHdBADdDUN3 GUNU GUNUoKU3dLAcTARcEcU2bDbRUDAo36c48a TIMES DUBdGAcIGIa GUNUiNIcPAP PLUS PAP PLUS LU",
    "3vSHESH PLUS KInUDbRUDAp724c49gU2 GUNU TIMES ASHoTIMES DISHeHALdPAPa PLUS PAP PLUS LU3vTAK4oMI PLUS ZA7kUSH ",
    "OVER MUSH TIMES GAcKAKyNINDA2 TIMES DIM GUNUiGISHdULdHIcKESH2fLAK-050hMASHePAP PLUS PAPmUa PLUS UhRUDAsSAG G",
    "UNU TIMES HAnTIMES ENcSHE AT LEFTlTAK4nHA6 TENUhE OVER SHEiPLUS HUB2eNAM2eSARkU2 PLUS DUG TIMES NImE2 TIMES ",
    "ANuI TIMES TAK4nTAK4 PLUS SAGmUM TIMES GAN2 TENUjTHREE DISHuUR2 INVERTEDiTIMES UDkU TIMES DARA3fLAK-668gU3nZ",
    "A7cU OVER ZU PLUS SARr5 TIMES THREE DISH TENU"]⟩,
  ⟨0x12F90, [
    "aCYPRO-MINOAN SIGN CM001b2b4b5b6b7b8b9c10b1b2aBc3b5b7b9c21b3b4b5b6b7b8b9c30b3b4b5b6b7b8b9c40b1b4b6b7b9c50b1b",
    "2b3b4b5b6b8b9c60b1b2b3b4b6b7b8b9c70b1b2b3b4b5aBc6b8b9c80b1b2b3b4b5b6b7b8b9c90b1b2b4b5b6b7b8b9d100b1b2b3b4b5b",
    "7b8b9c10b2b4d301b2"]⟩,
  ⟨0x13000, [
    "aEGYPTIAN HIEROGLYPH A001b2b3b4b5aAc6aAbBc7b8b9c10b1b2b3b4aAc5b6b7aAc8b9c20b1b2b3b4b5b6b7b8b9c30b1b2aAc3b4b5",
    "b6b7b8b9c40aAc1b2aAc3aAc4b5aAc6b7b8b9c50b1b2b3b4b5b6b7b8b9c60b1b2b3b4b5b6b7b8b9c70eB001b2b3b4b5aAc6b7b8b9eC0",
    "01b2aAbBbCc3b4b5b6b7b8b9c10aAc1b2b3b4b5b6b7b8b9c20b1b2b3b4eD001b2b3b4b5b6b7b8aAc9c10b1b2b3b4b5b6b7b8b9c20b1b",
    "2b3b4b5b6b7aAc8b9c30b1aAc2b3b4aAc5b6b7b8b9c40b1b2b3b4b5b6aAc7b8aAc9c50aAbBbCbDbEbFbGbHbIc1b2aAc3b4aAc5b6b7b8",
    "b9c60b1b2b3b4b5b6b7aAbBbCbDbEbFbGbHfE001b2b3b4b5b6b7b8aAc9aAd10b1b2b3b4b5b6aAc7aAc8b9c20aAc1b2b3b4b5b6b7b8aA",
    "c9c30b1b2b3b4aAc6b7b8eF001aAc2b3b4b5b6b7b8b9c10b1b2b3aAc4b5b6b7b8b9c20b1aAc2b3b4b5b6b7b8b9c30b1aAc2b3b4b5b6b",
    "7aAc8aAc9c40b1b2b3b4b5aAc6aAc7aAc8b9c50b1aAbBbCc2b3eG001b2b3b4b5b6aAc7aAbBc8b9c10b1aAc2b3b4b5b6b7b8b9c20aAc1",
    "b2b3b4b5b6aAc7b8b9c30b1b2b3b4b5b6aAc7aAc8b9c40b1b2b3aAc4b5aAc6b7b8b9c50b1b2b3b4eH001b2b3b4b5b6aAc7b8eI001b2b",
    "3b4b5aAc6b7b8b9aAd10aAc1aAc2b3b4b5eK001b2b3b4b5b6b7b8eL001b2aAc3b4b5b6aAc7b8eM001aAbBc2b3aAc4b5b6b7b8b9c10aA",
    "c1b2aAbBbCbDbEbFbGbHc3b4b5aAc6aAc7aAc8b9c20b1b2aAc3b4aAc5b6b7b8aAc9c30b1aAc2b3aAbBc4b5b6b7b8b9c40aAc1b2b3b4e",
    "N001b2b3b4b5b6b7b8b9c10b1b2b3b4b5b6b7b8aAbBc9c20b1b2b3b4b5aAc6b7b8b9c30b1b2b3aAc4aAc5aAc6b7aAc8b9c40b1b2dL00",
    "1b2b3b4b5aAc6b7b8b9c10b1b2b3b4b5b6b7aAc8b9c20eU001b2b3b4b5b6b7b8b9c10aAc1aAc2b3b4b5b6b7b8aAc9c20b1b2aAgO001a",
    "Ac2b3b4b5aAc6aAbBbCbDbEbFc7b8b9c10aAbBbCc1b2b3b4b5b6b7b8b9aAd20aAc1b2b3b4aAc5aAc6b7b8b9aAd30aAc1b2b3aAc4b5b6",
    "aAbBbCbDc7b8b9c40b1b2b3b4b5b6b7b8b9c50aAbBc1eP001aAc2b3aAc4b5b6b7b8b9c10b1eQ001b2b3b4b5b6b7eR001b2aAc3aAbBc4",
    "b5b6b7b8b9c10aAc1b2b3b4b5b6aAc7b8b9c20b1b2b3b4b5b6b7b8b9eS001b2aAc3b4b5b6aAc7b8b9c10b1b2b3b4aAbBc5b6b7aAc8b9",
    "c20b1b2b3b4b5b6aAbBc7b8b9c30b1b2b3b4b5aAc6b7b8b9c40b1b2b3b4b5b6eT001b2b3aAc4b5b6b7aAc8aAc9aAd10b1aAc2b3b4b5b",
    "6aAc7b8b9c20b1b2b3b4b5b6b7b8b9c30b1b2aAc3aAc4b5b6eU001b2b3b4b5b6aAbBc7b8b9c10b1b2b3b4b5b6b7b8b9c20b1b2b3aAc4",
    "b5b6b7b8b9aAd30b1b2aAc3b4b5b6b7b8b9c40b1b2eV001aAbBbCbDbEbFbGbHbIc2aAc3b4b5b6b7aAbBc8b9c10b1aAbBbCc2aAbBc3b4",
    "b5b6b7b8b9c20aAbBbCbDbEbFbGbHbIbJbKbLc1b2b3aAc4b5b6b7b8aAc9aAd30aAc1aAc2b3aAc4b5b6b7aAc8b9c40aAfW001b2b3aAc4",
    "b5b6b7b8b9aAd10aAc1b2b3b4aAc5b6b7aAc8aAc9c20b1b2b3b4aAc5eX001b2b3b4aAbBc5b6aAc7b8aAfY001aAc2b3b4b5b6b7b8eZ00",
    "1b2aAbBbCbDc3aAbBc4aAc5aAc6b7b8b9c10b1b2b3b4b5aAbBbCbDbEbFbGbHbIc6aAbBbCbDbEbFbGbHfAA001b2b3b4b5b6b7aAbBc8b9",
    "c10b1b2b3b4b5b6b7b8b9c20b1b2b3b4b5b6b7b8b9c30b1b2"]⟩,
  ⟨0x13430, [
    "aEGYPTIAN HIEROGLYPH VERTICAL JOINERpHORIZONTAL JOINERrINSERT AT TOP STARTjBOTTOM STARTmTOP ENDhBOTTOM ENDuO",
    "VERLAY MIDDLEoBEGIN SEGMENTnEND SEGMENT"]⟩,
  ⟨0x14400, [
    "aANATOLIAN HIEROGLYPH A001b2b3b4b5b6b7b8b9c10aAc1b2b3b4b5b6b7b8b9c20b1b2b3b4b5b6aAc7b8b9c30b1b2b3b4b5b6b7b8b",
    "9aAd40b1aAc2b3b4b5aAc6aAbBc7b8b9c50b1b2b3b4b5b6b7b8b9c60b1b2b3b4b5b6aAbBbCc7b8b9c70b1b2b3b4b5b6b7b8b9c80b1b2",
    "b3b4b5b6b7b8b9c90b1b2b3b4b5b6b7aAc8aAc9d100aAc1aAc2aAc3b4aAbBbCc5aAbBc6b7aAbBbCc8b9c10aAbBc1b2b3b4b5aAc6b7b8",
    "b9c20b1b2b3b4b5aAc6b7b8b9c30b1b2b3b4b5aAc6b7b8b9c40b1b2b3b4b5b6b7b8b9c50b1b2b3b4b5b6b7b8b9c60b1b2b3b4b5b6b7b",
    "8b9c70b1b2b3b4b5b6b7b8b9c80b1b2b3b4b5b6b7b8b9c90b1b2b3b4b5b6b7b8b9d200b1b2aAbBc3b4b5b6b7aAc8b9aAd10b1b2b3b4b",
    "5aAc6aAc7b8b9c20b1b2b3b4b5b6b7aAc8b9c30b1b2b3b4b5b6b7b8b9c40b1b2b3b4b5b6b7b8b9c50b1b2b3b4b5b6b7b8b9c60b1b2b3",
    "b4b5b6b7aAc8b9c70b1b2b3b4b5b6b7b8b9c80b1b2b3b4b5b6b7b8b9aAd90b1b2b3b4aAc5b6b7b8b9aAe300b1b2b3b4b5b6b7b8b9aAd",
    "10b1b2b3b4b5b6b7b8b9c20b1b2b3b4b5b6b7b8b9aAd30b1b2AbBbCc3b4b5b6aAbBbCc7b8b9c40b1b2b3b4b5b6b7b8b9c50b1b2b3b4b",
    "5b6b7b8b9aAd60b1b2b3b4aAc5b6b7b8aAc9c70b1aAc2b3b4b5b6b7b8b9c80b1aAc2b3 RA OR RIjAc4b5b6aAc7b8b9c90b1b2b3 EIG",
    "HTh4b5b6b7b8b9d400b1b2b3b4b5b6b7b8b9c10 BEGIN LOGOGRAM MARKuA END LOGOGRAM MARKu1b2b3b4b5b6b7b8b9c20b1b2b3b4",
    "b5b6b7b8b9c30b1b2b3b4b5b6b7b8b9c40b1b2b3b4b5b6b7b8b9c50aAc1b2b3b4b5b6b7aAc8b9c60b1b2b3b4b5b6b7b8b9c70b1b2b3b",
    "4b5b6b7b8b9c80b1b2b3b4b5b6b7b8b9c90b1b2b3b4b5b6b7d501b2b3b4b5b6b7b8b9c10b1b2b3b4b5b6b7b8b9c20b1b2b3b4b5b6b7b",
    "8b9c30"]⟩,
  ⟨0x16800, [
    "aBAMUM LETTER PHASE-A NGKUE MFONkGBIEE FONjPON MFON PIPAEMGBIEEfBArNAA MFONiSHUENSHUETkTITA MFONjNZA MFONiSH",
    "INDA PA NJInPON PA NJI PIPAEMGBIEEfBAtMAEMBGBIEEkTU MAEMBAjNGANGUgMAEMVEUXgNSUAEgVEUAENGAMkSEUNYAMhNTOQPENhK",
    "EUKEUTNDAkNKINDIgSUUdNGKUENZEUMkLAPAQeET KUThNTAP MFAAjMAEKEUPhPASHAEgGHEUAERAEjPAMSHAEhMON NGGEUAETmNZUN ME",
    "UTjU YUQ NAEjGHEUAEGHEUAEmNTAP NTAAjSISAeMGBASAfEUNJOMNDEUQlOOMPUQhKAFAePA LEERAEWAlNDA LEERAEWAmPETdMAEMKPE",
    "NiNIKAePUPdTUAEPfLUAEPfSONJAMgTEUTEUWENjMAENYIgKETdNDAANGGEUAETmKUOQeMOOMEUThSHUMeLOMMAEgFIRIeROMdKPOQeSOQdM",
    "AP PIEETjSHIRAEgNTAPeSHOQ NSHUT YUMoNYIT MONGKEUAEQpPAARAEgNKAARAEhUNKNOWNhNGGENfMAESIfNJAMeMBANYIgNYETeTEUA",
    "ENgSOTdPAAMeNSHIEEgMAEMeNYIdKAQdNSHAeVEEdLUcNENcAQdMBAQgB NSHUETgTU MAEMGBIEEmSIEEdET TUgLOM NTEUMjMBA MAELE",
    "EkKIEEMfYEURAEgMBAARAEhKAMdPEESHIgYAFU LEERAEWAnLAM NSHUT NYAMoNTIEE SHEUOQlDU NJAAiGHEUGHEUAEMlPITdTU NSIEE",
    "iSHET NJAQgUAEQTUjMFON TEUAEQkBIT MBAAKETmNYI NTEUMjKEUPUQgGHEUGHENiKEUYEUXhLAANAEgPARUMfVEUMeNGKINDI MVOPkG",
    "EU MBUjWUAETfSAKEUAEhTAAMeMEUQeNGGUOQa LARGEmMFIYAQgSUEdMBEURIfONTIEENiNYAEMAEhPUNGAAMhMEUT NGGEETlFEUXeMBUO",
    "QfFEEdKEUAEMgMA NJEUAENAgUQAiLETdNGGAAMfSENeMAcKIQdNGOMgC NGKUE MAEMBAlZAdYUMdWANGKUOQiNGGENeDEUAEREEiGKAQfG",
    "HARAEgMBEEKEETiGBAYIfNYIR MKPARAQ MEUNqTU MBITiMBEUMfPIRIEENhNDOMBUgMBAA CABBAGE-TREErKEUSHEUAEPkGHAPeKEUKAQ",
    "gYU MUOMAEjNZEUMfMBUEeNSEUAENhMBITeYEUQeKPARAQfAAdSEUXeNDIDAfTAASHAEhNJUEQfTITA YUEiSUAETfNGGUAEN NYAMmVEUXe",
    "NANSANAQiMA KEUAERIkNTAAdGGUONgLAPdMBIRIEENhGBASAQhNTEUNGBAiTEUTEUXhNGGUMfFUEdNDEUTeSAbHAQfBUNGeVEUAEPENiMBE",
    "RAEgRUcNJAEMfLAMdTITUAEPhNSUOT NGOMjJEEEEgKETdNGGUeMAESIeBUAEMgLUcKUTdNJAMdGOMeWUPdNGGUEETgSOMdTENeKUOP NKAA",
    "RAEmNSUNdDAMeMA NSIEEiYAAdNDAPeSHUEQeETFONgMBIcAEMBAfBANYIgKEUSEUXhMBEUXfKEUMeMBAA PICKETlYUWOQfNJEUXfMIEEdU",
    "AEeSHIQeKEN LAWdFATIGUElNGAQdAQdLIQdPINcENdTETfD MBUOeWAPdNJIdMFONeNJIEEfLIEEeNJEUTeSHEEeGGAAMAEhYAMeWUAENfN",
    "GKUNfSHEEeNGKAPfKEUAETMEUNkTEUTeSHEUAEgNJAPeSUEdKETdYAEMMAEhKUOMeSAPdMFEUTfNDEUXfMALEERIgEUTeSEUAEQgYENdNJEU",
    "AEMhKEUOT MBUAElNGKEURIhTUcGHAAeNGKYEEgFEUFEUAETjNDEEeMGBOFUMhLEUAEPgNDONeMONIdGBEUNgPUUTeMGBIEEfFOdLUMdNSIE",
    "EPgMBAAeKWAETfNYETeTEUAENgSOTdYUWOQfKEUMeRAEMeTEEEEfNGKEUAEQiMFEUAEgNSIEETgKEUPePIPcEUTAEgNYUEeLETdNGGAAMgMF",
    "IEEfNGGWAENhYUOMePAPdYUOPeNDAMdTEUMfSUAEeKUNdNGGEUXeKIEEgTUOTeMEUNeKUQdNSUMeTEUNeMAENJEThNGGAPfLEUMeNGGUOMfS",
    "HUTeJUEQfGHEUAEgKUcREN OLDhTAEcOQdNYIdRIIdLEEEEfMEEEEfMbSUUdMUcSHIIcEUXfKYEEeNUcSHUdNTEEePEEdNIcSHOQePUQdMVO",
    "PeLOQdREN MUCHiTIcNTUUeMBAA SEVENkSAQdFAAfE NDAPeTOONeMBEUMfLAPdVOMdLOONePAAdSOMdRAQdNSHUOPfDUNePUAEeTAMdNGK",
    "AeKPEUXfWUOdSEEdNGGEUAETiPAAMeTOOdKUOPeLOMdNSHIEEfGOPeMAEMeNGKEUXeOQdSHUEfRIMGBAgNJEUXfPEEMeSAAdNGGURAEhMGBA",
    "eGHEUXfNGKEUAEMhJAEMLIhMAPdLOOTeNGGEEEEgDIQeTAEN NTEUMkSETdPUMdNDAA SOFTNESSmGGUAESHAE NYAMpYIEEeGHEUNfTUAEe",
    "YEUAEfPOcTUMAEfKEUAEfSUAENfTEUAEQgVEUAEfWEUXeLAAMePUcTAAQeGHAAMAEhNGEUREUTiSHEUAEQhMGBENeBEEeNZAQdKOMeGBETeT",
    "UMdKUETeYAPdNYI CLEAVERlYITdMFEUQfNDIAQfPIEEQfYUEQeLEUAEMgFUEdGBEUXfNGKUPfKETdMAEdNGKAAMIhGHETeFAcNTUMePEUTe",
    "YEUMeNGGEUAEgYI BETWEENkZUQePOONeMIEEeFUETeNAEdMUAEeGHEUAEgFU IeMVIdPUAQeNGKUMfKUTdPIETeNTAPeYEUAETgNGGUPfPA",
    " PEOPLEjFU CALLgOMdNJEEeAbTOQdObIbLAQdPA PLURALjTAAbQdNDAA MY HOUSEnSHIQeYEUXeNGUAEfYUAENeOQ SWIMMINGiCOVERi",
    "UQbNdKEUXePEUXeNJEE EPOCHkPUEdWUEdFEEdVEEdLUcMIcREUXdAEdNGUAETeAdSHOaQeFU REMEDYjNAcPIcLOQdKOcMENcAaQdTEUdKI",
    "cMONdTENdFAQdGHOMgF KAcUbKUcEEcREEdTAEdNYIdLAcRIIbEEeMEEEEfTAAdNDAAdJAEMfMbSUUcHIIdIbEUXeKYEEdETdNUAEdUbJUAE",
    "fYOQdSHUdYAcNSHAePEUXeNTEEeWUEdPEEdRUcNIcREUXeKENdNGKWAENfGAeSHOdPUAEeFOMdWAcLIbOQdKOcMBENeRENdMAbObBAAeTETd",
    "KPAdSAMBAfVUEQ"]⟩,
  ⟨0x16A40, [
    "aMRO LETTER TAcNGIdYOcMIMdBAcDAcAbPHIdKHAIeHAOdDAIdCHUdKEAAEfOLcMAEMeNINdPAcOOcObROcSHIdTHEAeEAcWAcEbKOcLANc",
    "AcHAIdRIcTEK"]⟩,
  ⟨0x16A60, ["aMRO DIGIT ZEROeONEdTWOcHREEfFOURdIVEeSIXcEVENfEIGHTfNINE"]⟩,
  ⟨0x16A6E, [
    "aMRO DANDAeOUBLE DANDAqTANGSA LETTER OZbCbQbXcAZbCbQbXcVZbCbQbXcEZbCbQbXcIZbCbQbXcUZbCbQbXcAWZbCbQbXdUIZbCbQ",
    "bXdFINAL NGiLONG UEXiSHORT UEZdAWXjUECbZbQbXcIUZbCbQbXeMZbCbQbXcKAbHAdGAcNGAdSAcYAcWAcPAcNYAdPHAdBAcMAcNAcHA",
    "cLAcHTAdTAcDAcRAcNHAdSHAdCAcTSAdGHAdHTTAeTHAdXAcFAcDHAdCHAdZA"]⟩,
  ⟨0x16AC0, ["aTANGSA DIGIT ZEROeONEdTWOcHREEfFOURdIVEeSIXcEVENfEIGHTfNINE"]⟩,
  ⟨0x16AD0, [
    "aBASSA VAH LETTER ENNIeKAcSEcFAcMBEdYIEdGAHdDHIIeKPAHeJOcHWAHeWAcZOcGBUdDOcCEcUWUdTOcBAcVUcYEINePAcWADDAfAbO",
    "aOcUbEEcEbI"]⟩,
  ⟨0x16AF0, ["aBASSA VAH COMBINING HIGH TONEjLOW TONEiMID TONEiLOW-MID TONEmHIGH-LOW TONExFULL STOP"]⟩,
  ⟨0x16B00, [
    "aPAHAWH HMONG VOWEL KEEBbVdIBbVcAUBbVdUBbVcEBbVcAIBbVdOOBbVdAWBbVdUABbVdOBbVcIABbVdABbVcWBbVcAABbVkCONSONANT",
    " VAUdNTSAUfLAUdHAUdNLAUeRAUdNKAUeQHAUeYAUdHLAUeMAUdCHAUeNCHAUfHNAUePLHAUfNTHAUeAUdAUcXAUdCAUnMARK CIM TUBdSO",
    "cKEScHAVeSUAMeHOMdTAUMnSIGN VOS THOMdSHAB CEEBoCIM CHEEMjVOS THIABfFEEMiXYEEM NTXIVfRHOdTOVdFAIBkVOS SEEViME",
    "EJ SUABjVOS NRUAiIB YAMgXAUSeCIM TSOV ROG"]⟩,
  ⟨0x16B50, ["aPAHAWH HMONG DIGIT ZEROeONEdTWOcHREEfFOURdIVEeSIXcEVENfEIGHTfNINE"]⟩,
  ⟨0x16B5B, ["aPAHAWH HMONG NUMBER TENSeHUNDREDSiTEN THOUSANDSnMILLIONSiHUNDRED MILLIONSqTEN BILLIONSlRILLIONS"]⟩,
  ⟨0x16B63, [
    "aPAHAWH HMONG SIGN VOS LUBhXYOOeHLIdTHIRD-STAGE HLIpZWJ THAJiHNUBeNQIGeXIABeNTUJeAVcTXHEEJ CEEVlMEEJ TSEEBkT",
    "AUdLOSdMUSdCIM HAIS LUS NTOG NTOGsCUAM TSHOOJlTXWVa CHWVjPUB DAWBiNRES TOS"]⟩,
  ⟨0x16B7D, [
    "aPAHAWH HMONG CLAN SIGN TSHEEJgYEEGeLIScAUJeXYOOJfKOOdHAWJeMUASeTHOJdSABePHABeKHABeHAMdVAJdFAJdYAJdTSWBeKWMd",
    "VWJ"]⟩,
  ⟨0x16E40, [
    "aMEDEFAIDRIN CAPITAL LETTER MbSbVbWbATIUeZbKPcPbTbGbFbIbKbAbJbEbBbCbUbYUcLbQbHPcNYcXbDbOEcNbRbObAIcYqSMALL L",
    "ETTER MbSbVbWbATIUeZbKPcPbTbGbFbIbKbAbJbEbBbCbUbYUcLbQbHPcNYcXbDbOEcNbRbObAIcYoDIGIT ZEROeONEdTWOcHREEfFOURd",
    "IVEeSIXcEVENfEIGHTfNINEkNUMBER TENdELEVENgTWELVEfHIRTEENiFOURTEENhIFTEENhSIXTEENgEVENTEENjEIGHTEENiNINETEENp",
    "DIGIT ONE ALTERNATE FORMsTWO ALTERNATE FORMrHREE ALTERNATE FORMzbCOMMAfFULL STOPjSYMBOL AIVAlEXCLAMATION OH"]⟩,
  ⟨0x16F00, [
    "aMIAO LETTER PAcBAcYI PAfPLAdMAbHAdARCHAIC MAkFAcVAbFAdTAcDAcYI TTAcAfTTAdDDAdNAbHAdYI NNAgARCHAIC NAkNNAbHA",
    "eLAbYAcHAbYAeTLHAeDLHAeTLHYAfDLHYAfKAcGAcYI KAfQAbGAdNGAbHAeARCHAIC NGAlHAcXAcGHAbHAeTSSAeDZZAeNYAbHAeTSHAeD",
    "ZHAeYI TSHAeDZHAhREFORMED TSHAnSHAcSAdZHAcSHAeTSAdDZAdYI TSAgSAcZAbSAcZAbSAeARCHAIC ZZAlZZYAcSYAfWAcAHcHHAdB",
    "RIdSYIdDZYIeTEbSEdRTE"]⟩,
  ⟨0x16F4F, [
    "aMIAO SIGN CONSONANT MODIFIER BARzcLETTER NASALIZATIONtSIGN ASPIRATIONkREFORMED VOICINGhASPIRATIONyVOWEL SIG",
    "N AaAbHHcNaGdOaOcWOcWbEaNaGdOEYdIaAaNaGdObEbIbUbNGdUaAaNaGdUbEIcNGdYaIcAEaEdERRdROUNDED ERRlERcROUNDED ERkAI",
    "cEIcAUcOUcNaGcUOGdYUIdOGbERdVWcIGcEAcIONGeUI"]⟩,
  ⟨0x16F8F, ["aMIAO TONE RIGHTfTOP RIGHTjABOVEfBELOWkLETTER TONE-2b3b4b5b6b7b8gREFORMED TONE-1b2b4b5b6b8"]⟩,
  ⟨0x16FE0, [
    "aTANGUT ITERATION MARKvNUSHU ITERATION MARKuOLD CHINESE HOOK MARKjITERATION MARKzbKHITAN SMALL SCRIPT FILLER"]⟩,
  ⟨0x16FF0, ["aVIETNAMESE ALTERNATE READING MARK CAcNHAY"]⟩,
  ⟨0x18800, [
    "aTANGUT COMPONENT-001b2b3b4b5b6b7b8b9c10b1b2b3b4b5b6b7b8b9c20b1b2b3b4b5b6b7b8b9c30b1b2b3b4b5b6b7b8b9c40b1b2b",
    "3b4b5b6b7b8b9c50b1b2b3b4b5b6b7b8b9c60b1b2b3b4b5b6b7b8b9c70b1b2b3b4b5b6b7b8b9c80b1b2b3b4b5b6b7b8b9c90b1b2b3b4",
    "b5b6b7b8b9d100b1b2b3b4b5b6b7b8b9c10b1b2b3b4b5b6b7b8b9c20b1b2b3b4b5b6b7b8b9c30b1b2b3b4b5b6b7b8b9c40b1b2b3b4b5",
    "b6b7b8b9c50b1b2b3b4b5b6b7b8b9c60b1b2b3b4b5b6b7b8b9c70b1b2b3b4b5b6b7b8b9c80b1b2b3b4b5b6b7b8b9c90b1b2b3b4b5b6b",
    "7b8b9d200b1b2b3b4b5b6b7b8b9c10b1b2b3b4b5b6b7b8b9c20b1b2b3b4b5b6b7b8b9c30b1b2b3b4b5b6b7b8b9c40b1b2b3b4b5b6b7b",
    "8b9c50b1b2b3b4b5b6b7b8b9c60b1b2b3b4b5b6b7b8b9c70b1b2b3b4b5b6b7b8b9c80b1b2b3b4b5b6b7b8b9c90b1b2b3b4b5b6b7b8b9",
    "d300b1b2b3b4b5b6b7b8b9c10b1b2b3b4b5b6b7b8b9c20b1b2b3b4b5b6b7b8b9c30b1b2b3b4b5b6b7b8b9c40b1b2b3b4b5b6b7b8b9c5",
    "0b1b2b3b4b5b6b7b8b9c60b1b2b3b4b5b6b7b8b9c70b1b2b3b4b5b6b7b8b9c80b1b2b3b4b5b6b7b8b9c90b1b2b3b4b5b6b7b8b9d400b",
    "1b2b3b4b5b6b7b8b9c10b1b2b3b4b5b6b7b8b9c20b1b2b3b4b5b6b7b8b9c30b1b2b3b4b5b6b7b8b9c40b1b2b3b4b5b6b7b8b9c50b1b2",
    "b3b4b5b6b7b8b9c60b1b2b3b4b5b6b7b8b9c70b1b2b3b4b5b6b7b8b9c80b1b2b3b4b5b6b7b8b9c90b1b2b3b4b5b6b7b8b9d500b1b2b3",
    "b4b5b6b7b8b9c10b1b2b3b4b5b6b7b8b9c20b1b2b3b4b5b6b7b8b9c30b1b2b3b4b5b6b7b8b9c40b1b2b3b4b5b6b7b8b9c50b1b2b3b4b",
    "5b6b7b8b9c60b1b2b3b4b5b6b7b8b9c70b1b2b3b4b5b6b7b8b9c80b1b2b3b4b5b6b7b8b9c90b1b2b3b4b5b6b7b8b9d600b1b2b3b4b5b",
    "6b7b8b9c10b1b2b3b4b5b6b7b8b9c20b1b2b3b4b5b6b7b8b9c30b1b2b3b4b5b6b7b8b9c40b1b2b3b4b5b6b7b8b9c50b1b2b3b4b5b6b7",
    "b8b9c60b1b2b3b4b5b6b7b8b9c70b1b2b3b4b5b6b7b8b9c80b1b2b3b4b5b6b7b8b9c90b1b2b3b4b5b6b7b8b9d700b1b2b3b4b5b6b7b8",
    "b9c10b1b2b3b4b5b6b7b8b9c20b1b2b3b4b5b6b7b8b9c30b1b2b3b4b5b6b7b8b9c40b1b2b3b4b5b6b7b8b9c50b1b2b3b4b5b6b7b8b9c",
    "60b1b2b3b4b5b6b7b8uKHITAN SMALL SCRIPT CHARACTER-18B00b1b2b3b4b5b6b7b8b9bAbBbCbDbEbFc10b1b2b3b4b5b6b7b8b9bAb",
    "BbCbDbEbFc20b1b2b3b4b5b6b7b8b9bAbBbCbDbEbFc30b1b2b3b4b5b6b7b8b9bAbBbCbDbEbFc40b1b2b3b4b5b6b7b8b9bAbBbCbDbEbF",
    "c50b1b2b3b4b5b6b7b8b9bAbBbCbDbEbFc60b1b2b3b4b5b6b7b8b9bAbBbCbDbEbFc70b1b2b3b4b5b6b7b8b9bAbBbCbDbEbFc80b1b2b3",
    "b4b5b6b7b8b9bAbBbCbDbEbFc90b1b2b3b4b5b6b7b8b9bAbBbCbDbEbFcA0b1b2b3b4b5b6b7b8b9bAbBbCbDbEbFcB0b1b2b3b4b5b6b7b",
    "8b9bAbBbCbDbEbFcC0b1b2b3b4b5b6b7b8b9bAbBbCbDbEbFcD0b1b2b3b4b5b6b7b8b9bAbBbCbDbEbFcE0b1b2b3b4b5b6b7b8b9bAbBbC",
    "bDbEbFcF0b1b2b3b4b5b6b7b8b9bAbBbCbDbEbFdC00b1b2b3b4b5b6b7b8b9bAbBbCbDbEbFc10b1b2b3b4b5b6b7b8b9bAbBbCbDbEbFc2",
    "0b1b2b3b4b5b6b7b8b9bAbBbCbDbEbFc30b1b2b3b4b5b6b7b8b9bAbBbCbDbEbFc40b1b2b3b4b5b6b7b8b9bAbBbCbDbEbFc50b1b2b3b4",
    "b5b6b7b8b9bAbBbCbDbEbFc60b1b2b3b4b5b6b7b8b9bAbBbCbDbEbFc70b1b2b3b4b5b6b7b8b9bAbBbCbDbEbFc80b1b2b3b4b5b6b7b8b",
    "9bAbBbCbDbEbFc90b1b2b3b4b5b6b7b8b9bAbBbCbDbEbFcA0b1b2b3b4b5b6b7b8b9bAbBbCbDbEbFcB0b1b2b3b4b5b6b7b8b9bAbBbCbD",
    "bEbFcC0b1b2b3b4b5b6b7b8b9bAbBbCbDbEbFcD0b1b2b3b4b5"]⟩,
  ⟨0x1AFF0, ["aKATAKANA LETTER MINNAN TONE-2b3b4b5"]⟩,
  ⟨0x1AFF5, ["aKATAKANA LETTER MINNAN TONE-7b8gNASALIZED TONE-1b2b3b4b5"]⟩,
  ⟨0x1AFFD, ["aKATAKANA LETTER MINNAN NASALIZED TONE-7b8"]⟩,
  ⟨0x1B000, [
    "aKATAKANA LETTER ARCHAIC EzaHIRAGANA LETTER ARCHAIC YEzaENTAIGANA LETTER A-1b2b3bWOeI-1b2b3b4dU-1b2b3b4b5dE-",
    "2b3b4b5b6dO-1b2b3dKA-1b2b3b4b5b6b7b8b9b10b1cKEeI-1b2b3b4b5b6b7b8dU-1b2b3b4b5b6b7dE-1b2b3b4b5b6dO-1b2b3bKIfSA",
    "-1b2b3b4b5b6b7b8dI-1b2b3b4b5b6dU-1b2b3b4b5b6b7b8dE-1b2b3b4b5dO-1b2b3b4b5b6b7eTA-1b2b3b4dI-1b2b3b4b5b6b7dU-1b",
    "2b3b4bTOeE-1b2b3b4b5b6b7b8b9dO-1b2b3b4b5b6bRAfNA-1b2b3b4b5b6b7b8b9dI-1b2b3b4b5b6b7bTEeU-1b2b3dE-1b2b3b4b5b6b",
    "KOeO-1b2b3b4b5eHA-1b2b3b4b5b6b7b8b9b10b1eI-1b2b3b4b5b6b7dU-1b2b3dE-1b2b3b4b5b6b7dO-1b2b3b4b5b6b7b8eMA-1b2b3b",
    "4b5b6b7dI-1b2b3b4b5b6b7dU-1b2b3b4dE-1b2bMAeO-1b2b3b4b5b6eYA-1b2b3b4b5bYOeU-1b2b3b4dO-1b2b3b4b5b6eRA-1b2b3b4d",
    "I-1b2b3b4b5b6b7dU-1b2b3b4b5b6dE-1b2b3b4dO-1b2b3b4b5b6eWA-1b2b3b4b5dI-1b2b3b4b5dE-1b2b3b4dO-1b2b3b4b5b6b7eN-M",
    "U-MO-1b2zbIRAGANA LETTER ARCHAIC WUzbKATAKANA LETTER ARCHAIC YIbEcWU"]⟩,
  ⟨0x1B150, ["aHIRAGANA LETTER SMALL WIbEbO"]⟩,
  ⟨0x1B164, ["aKATAKANA LETTER SMALL WIbEbOcN"]⟩,
  ⟨0x1B170, [
    "aNUSHU CHARACTER-1B170b1b2b3b4b5b6b7b8b9bAbBbCbDbEbFc80b1b2b3b4b5b6b7b8b9bAbBbCbDbEbFc90b1b2b3b4b5b6b7b8b9bA",
    "bBbCbDbEbFcA0b1b2b3b4b5b6b7b8b9bAbBbCbDbEbFcB0b1b2b3b4b5b6b7b8b9bAbBbCbDbEbFcC0b1b2b3b4b5b6b7b8b9bAbBbCbDbEb",
    "FcD0b1b2b3b4b5b6b7b8b9bAbBbCbDbEbFcE0b1b2b3b4b5b6b7b8b9bAbBbCbDbEbFcF0b1b2b3b4b5b6b7b8b9bAbBbCbDbEbFd200b1b2",
    "b3b4b5b6b7b8b9bAbBbCbDbEbFc10b1b2b3b4b5b6b7b8b9bAbBbCbDbEbFc20b1b2b3b4b5b6b7b8b9bAbBbCbDbEbFc30b1b2b3b4b5b6b",
    "7b8b9bAbBbCbDbEbFc40b1b2b3b4b5b6b7b8b9bAbBbCbDbEbFc50b1b2b3b4b5b6b7b8b9bAbBbCbDbEbFc60b1b2b3b4b5b6b7b8b9bAbB",
    "bCbDbEbFc70b1b2b3b4b5b6b7b8b9bAbBbCbDbEbFc80b1b2b3b4b5b6b7b8b9bAbBbCbDbEbFc90b1b2b3b4b5b6b7b8b9bAbBbCbDbEbFc",
    "A0b1b2b3b4b5b6b7b8b9bAbBbCbDbEbFcB0b1b2b3b4b5b6b7b8b9bAbBbCbDbEbFcC0b1b2b3b4b5b6b7b8b9bAbBbCbDbEbFcD0b1b2b3b",
    "4b5b6b7b8b9bAbBbCbDbEbFcE0b1b2b3b4b5b6b7b8b9bAbBbCbDbEbFcF0b1b2b3b4b5b6b7b8b9bAbB"]⟩,
  ⟨0x1BC00, [
    "aDUPLOYAN LETTER HbXbPbTbFbKbLbBbDbVbGbRbP NdD SdF NdK MdR SdTHcSLOAN DHiDHcKKcSLOAN JhHLcLHcRHcMbNbJbSbM Nd",
    "N MdJ MdS JdM WITH DOTkN WITH DOTkJ WITH DOTaS INSIDE AND ABOVEzdS WITH DOTa BELOWqM SdN SdJ SdS SdM N SfN M",
    " SfJ M SfS J SfJ S WITH DOTkNa SfS Ta RdPa RfT SbR SfWaHb RdS NbMdK R SfG R SfS Ka RfAbSLOAN OWiOAcObAOUdIbE",
    "bIEcSHORT IhUIcEEcSLOAN EHiROMANIAN IkSLOAN EEiLONG IgYEcUbEUcXWcU NdLONG UgROMANIAN UkUHcSLOAN UhOOHcWbUcWA",
    "bObIbEIcOWdNASAL UbObIbAhPERNIN ANbMjSLOAN ENcANcONiVOCALIC M"]⟩,
  ⟨0x1BC70, [
    "aDUPLOYAN AFFIX LEFT HORIZONTAL SECANTwMID HORIZONTAL SECANTvRIGHT HORIZONTAL SECANTxLOW VERTICAL SECANTtMID",
    " VERTICAL SECANTtHIGH VERTICAL SECANTuATTACHED SECANTgLEFT-TO-RIGHT SECANTuTANGENTfILeE HOOKgI HOOKgTANGENT ",
    "HOOK"]⟩,
  ⟨0x1BC80, ["aDUPLOYAN AFFIX HIGH ACUTEfTIGHT ACUTElGRAVEfLONG GRAVEkDOTdCIRCLEgLINEeWAVEeVERTICAL"]⟩,
  ⟨0x1BC90, ["aDUPLOYAN AFFIX LOW ACUTEfTIGHT ACUTElGRAVEfLONG GRAVEkDOTdCIRCLEgLINEeWAVEeVERTICALiARROW"]⟩,
  ⟨0x1BC9C, [
    "aDUPLOYAN SIGN O WITH CROSSrTHICK LETTER SELECTORvDOUBLE MARKlPUNCTUATION CHINOOK FULL STOPznSHORTHAND FORMA",
    "T LETTER OVERLAPoCONTINUING OVERLAPsDOWN STEPjUP STEP"]⟩,
  ⟨0x1CF00, [
    "aZNAMENNY COMBINING MARK GORAZDO NIZKO S KRYZHEM ON LEFTzgNIZKO S KRYZHEM ON LEFTxTSATA ON LEFTnGORAZDO NIZK",
    "O ON LEFTvNIZKO ON LEFTnSREDNE ON LEFToMALO POVYSHE ON LEFTuPOVYSHE ON LEFTpVYSOKO ON LEFToMALO POVYSHE S KH",
    "OKHLOM ON LEFTzgPOVYSHE S KHOKHLOM ON LEFTzbVYSOKO S KHOKHLOM ON LEFTzaGORAZDO NIZKO S KRYZHEM ON RIGHTzhNIZ",
    "KO S KRYZHEM ON RIGHTyTSATA ON RIGHToGORAZDO NIZKO ON RIGHTwNIZKO ON RIGHToSREDNE ON RIGHTpMALO POVYSHE ON R",
    "IGHTvPOVYSHE ON RIGHTqVYSOKO ON RIGHTpMALO POVYSHE S KHOKHLOM ON RIGHTzhPOVYSHE S KHOKHLOM ON RIGHTzcVYSOKO ",
    "S KHOKHLOM ON RIGHTzbTSATA S KRYZHEMpMALO POVYSHE S KRYZHEMwSTRANNO MALO POVYSHEuPOVYSHE S KRYZHEMiTRANNOpVY",
    "SOKO S KRYZHEMqMALO POVYSHE STRANNOuGORAZDO VYSOKOoZELOeONcRAVNOfTIKHAYAhBORZAYAhUDARKAgPODVERTKAjLOMKAfKUPN",
    "AYAgACHKAgZEVOKfSKOBAfRAZSEKAhKRYZH ON LEFT"]⟩,
  ⟨0x1CF30, [
    "aZNAMENNY COMBINING TONAL RANGE MARK MRACHNOhSVETLOgTRESVETLOzbMARK ZADERZHKAjDEMESTVENNY ZADERZHKAvOTSECHKA",
    "iPODCHASHIEa WITH VERTICAL STROKEzgCHASHKAa POLNAYApOBLACHKOiSOROCHYA NOZHKApTOCHKAgDVOETOCHIEpATTACHING VER",
    "TICAL OMETxMARK CURVED OMETlKRYZHkLOWER TONAL RANGE INDICATORzmPRIZNAK MODIFIER LEVEL-2b3hDIRECTION FLIPoKRY",
    "ZHfROG"]⟩,
  ⟨0x1CF50, [
    "aZNAMENNY NEUME KRYUKa TIKHYlPARAKLITiDVA V CHELNUmKLYUCHgZANOZHEKiSTOPITSAa S OCHKOMrPEREVODKAa NEPOSTOYANN",
    "AYAySTOPITSA WITH SOROCHYA NOZHKAzeCHELYUSTKAkPALKAfZAPYATAYAjGOLUBCHIK BORZYfTIKHYfMRACHNYhSVETLYgTRESVETLY",
    "tVRAKHIYA PROSTAYAiMRACHNAYAjSVETLAYAiTRESVETLAYAlKLYUCHEVAYA PROSTAYAiMRACHNAYAjSVETLAYAiTRESVETLAYAzhDOUBL",
    "E ZAPYATAYAqREVERSED CHELYUSTKAtDERBITSAiKHAMILOhCHASHKAhPODCHASHIEkSKAMEYTSA MRACHNAYAjSVETLAYAiTRESVETLAYA",
    "kIKHAYArDEMESTVENNY KLYUCHsSKAMEYTSA KLYUCHEVAYA SVETLAYAnNEPOSTOYANNAYAoVAYA TIKHAYAtDVOECHELNAYA PROSTAYAi",
    "SVETLAYAiNEPOSTOYANNAYAoKLYUCHEVAYAziLOZHITIEa S ZAPYATOYkZAKRYTOEiS KRYZHEMtKRYZHfROGdFITAeKOBYLAgZMEYTSAhS",
    "TATYAa S ZAPYATOYiKRYZHEMhZAPYATOY I KRYZHEMsKRYZHEM I ZAPYATOYuZAKRYTAYAa S ZAPYATOYuS ROGOMfDVUMYA ZAPYATY",
    "MIqZAPYATOY I PODCHASHIEMzgPOLKULIZMYkSTATYA NEPOSTOYANNAYAtRELA PROSTAYAiMRACHNOTIKHAYAoKRYZHEVAYAkPOLUPOVO",
    "DNAYAlVODNAYAjNEPOSTOYANNAYAoKLYUCHEPOVODNAYAjNEPOSTOYANNAYAvTIKHAYA PUTNAYApDVOECHELNAYAdOKRYZHEVAYAkPOVODN",
    "AYAkAYA KLYUCHEVAYApOPOVODNAYA KLYUCHEVAYAzgGROMNAYA WITH SINGLE ZAPYATAYAzbOPOVODNAYA WITH SINGLE ZAPYATAYA",
    "zhNAYAeOPOVODNAYAa WITH DOUBLE ZAPYATAYAzgKRYZHEVAYAa POVODNAYAzhMECHIKa POVODNYhKLYUCHEVOYdPOVODNYhNEPOSTOY",
    "ANNYzbSTRELA TRYASOGLASNAYAiPOVODNAYAjSTRELNAYAwOSOKAa SVETLAYAiTRESVETLAYAlKRYUKOVAYA SVETLAYAsLYUCHEVAYA S",
    "VETLAYAiNEPOSTOYANNAYAzhSTRELA KRYUKOVAYAa POVODNAYAjGROMNAYA WITH SINGLE ZAPYATAYAzbOPOVODNAYA WITH SINGLE ",
    "ZAPYATAYAzhNAYAeOPOVODNAYAa WITH DOUBLE ZAPYATAYAzgKRYZHEVAYAa POVODNAYAzaTRYASKAzaKUFISMAhOBLAKOgDUDAeNEMKA",
    "fPAUK"]⟩]

end DomainPolicy.CharacterName
