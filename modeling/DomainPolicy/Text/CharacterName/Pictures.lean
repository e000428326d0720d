import DomainPolicy.Text.CharacterName.Basic

/-!
# Names of characters, from U+1D000 on

* Music, mathematics, pictures and games.
-/

namespace DomainPolicy.CharacterName

/-- The names of the characters from U+1D000 on. -/
def pictures : List Block := [
  ⟨0x1D000, [
    "aBYZANTINE MUSICAL SYMBOL PSILIfDASEIAgPERISPOMENIlOXEIA EKFONITIKONlDIPLIlVAREIA EKFONITIKONlDIPLImKATHISTI",
    "iSYRMATIKIjPARAKLITIKIlYPOKRISISa DIPLIpKREMASTIiAPESO EKFONITIKONrEXO EKFONITIKONpTELEIAgKENTIMATAjAPOSTROF",
    "OSa DIPLIqSYNEVMAhTHITAfOLIGON ARCHAIONpGORGON ARCHAIONpPSILONgCHAMILONiVATHYfISON ARCHAIONnKENTIMA ARCHAION",
    "jTA ARCHAIONsSAXIMATAiPARICHONiSTAVROS APODEXIAqOXEIAI ARCHAIONpVAREIAI ARCHAIONqAPODERMA ARCHAIONoTHEMAiKLA",
    "SMAgREVMAfPIASMA ARCHAIONpTINAGMAhANATRICHISMAmSEISMAfYNAGMA ARCHAIONiMETA STAVROUuOYRANISMA ARCHAIONsTHEMAf",
    "LEMOIfDYOdTRIAdESSERAhKRATIMATAjAPESO EXO NEOnFTHORA ARCHAIONpIMIFTHORAjTROMIKON ARCHAIONrKATAVA TROMIKONpPE",
    "LASTONhSIFISTONjKONTEVMAiCHOREVMA ARCHAIONrRAPISMAhPARAKALESMA ARCHAIONpLITIKI ARCHAIONuICHADINhNANAePETASMA",
    "hKONTEVMA ALLOnTROMIKON ALLOnSTRAGGISMATAmGRONTHISMATAmISON NEOiOLIGON NEOjXEIA NEOjPETASTIhKOUFISMAiPETASTO",
    "KOUFISMApKRATIMOKOUFISMApPELASTON NEOmKENTIMATA NEO ANOk NEO ANOpYPSILIgAPOSTROFOS NEOfI SYNDESMOS NEOyYPORR",
    "OIhKRATIMOYPORROONpELAFRONhCHAMILIhMIKRON ISONlVAREIA NEOkPIASMA NEOjSIFISTON NEOnOMALONgANTIKENOMAkLYGISMAh",
    "PARAKLITIKI NEOkALESMA NEOpETERON PARAKALESMAsKYLISMAhANTIKENOKYLISMApTROMIKON NEOmEKSTREPTONkSYNAGMA NEOjRM",
    "AfCHOREVMA NEOmEPEGERMAiSEISMA NEOkXIRON KLASMAmTROMIKOPSIFISTONqPSIFISTOLYGISMApTROMIKOLYGISMAhPARAKALESMAs",
    "PSIFISTOPARAKALESMAtTROMIKOSYNAGMAoPSIFISTOSYNAGMApGORGOSYNTHETONoARGOSYNTHETONnETERON ARGOSYNTHETONuOYRANIS",
    "MA NEOnTHEMATISMOS ESOcXOk APLOUNjS KAI APOTHESqKATAVASMAjENDOFONONjYFEN KATOeANOiSTAVROShKLASMA ANOkDIPLI A",
    "RCHAIONoKRATIMA ARCHAIONhLLOeNEOlAPODERMA NEOkLIeDIPLIfTRIPLIfETRAPLIiKORONIShLEIMMA ENOS CHRONOUmDYO CHRONO",
    "NlTRION CHRONONmESSARON CHRONONqIMISEOS CHRONOUwGORGON NEO ANOhPARESTIGMENON ARISTERAiDEXIAzbDIGORGONa PARES",
    "TIGMENON ARISTERA KATOeANOmDEXIAzdTRIGORGONjARGONfIMIDIARGONkDIARGONhAGOGI POLI ARGIjARGOTERIfIeMETRIAeSIeGO",
    "RGIbOTERIjPOLI GORGIqMARTYRIA PROTOS ICHOSmALLI PROTOS ICHOSrDEYTEROS ICHOSoALLI DEYTEROS ICHOStTRITOS ICHOS",
    "jFONIASiETARTOS ICHOSfLEGETOS ICHOSwLEGETOS ICHOSnPLAGIOS ICHOSwISAKIA TELOUS ICHIMATOSxAPOSTROFOI TELOUS IC",
    "HIMATOSzcFANEROSIS TETRAFONIASlMONOFONIASkDIFONIASsMARTYRIA VARYS ICHOSlPROTOVARYS ICHOSpLAGIOS TETARTOS ICH",
    "OSzgGORTHMIKON N APLOUNgDIPLOUNuENARXIS KAI FTHORA VOUwIMIFONONeTHORONkFTHORA ARCHAION DEYTEROU ICHOUxDIATON",
    "IKI PAcNANAoNAOS ICHOSkDIATONIKI DImSKLIRON DIATONON DItDIATONIKI KEcZOcNI KATOeANOqMALAKON CHROMA DIFONIASi",
    "MONOFONIASzgHTORA SKLIRON CHROMA VASISzbTHORA SKLIRON CHROMA SYNAFIvNENANOnCHROA ZYGOSfKLITONgSPATHImFTHORA ",
    "I YFESIS TETARTIMORIONwENARMONIOS ANTIFONIAzcYFESIS TRITIMORIONsDIESIS TRITIMORIONkETARTIMORIONnAPLI DYO DOD",
    "EKATArMONOGRAMMOS TESSERA DODEKATAzdDIGRAMMOS EX DODEKATAvTRIGRAMMOS OKTO DODEKATAzgYFESIS APLI DYO DODEKATA",
    "rMONOGRAMMOS TESSERA DODEKATAzdDIGRAMMOS EX DODEKATAvTRIGRAMMOS OKTO DODEKATAzgGENIKI DIESISgYFESISnDIASTOLI",
    " APLI MIKRIeEGALIlDIPLIfTHESEOSqSIMANSIS THESEOSa DISIMOUhTRISIMOUhETRASIMOUsARSEOSa DISIMOUhTRISIMOUhETRASI",
    "MOUzbDIGRAMMA GGjFTOGGOS OUmSTIGMAgARKTIKO PAcVOUdGAcDIcKEcZOcNIkKENTIMATA NEO MESOl NEO MESOjTA NEO KATOl N",
    "EO KATOpLASMA KATOlGORGON NEO KATO"]⟩,
  ⟨0x1D100, [
    "aMUSICAL SYMBOL SINGLE BARLINEoDOUBLE BARLINEoFINAL BARLINEnREVERSE FINAL BARLINEvDASHED BARLINEoSHORT BARLI",
    "NEnLEFT REPEAT SIGNqRIGHT REPEAT SIGNqEPEAT DOTSlDAL SEGNOh CAPOhSEGNOfCODAeREPEATED FIGURE-1b2b3rFERMATAa B",
    "ELOWnBREATH MARKlCAESURAhBRACEbKEThONE-LINE STAFFoTWO-LINE STAFFnHREE-LINE STAFFqFOUR-LINE STAFFoIVE-LINE ST",
    "AFFpSIX-LINE STAFFkSTRING FRETBOARDuFOUR-STRING FRETBOARDvG CLEFa OTTAVA ALTAeBASSAtC CLEFgF CLEFa OTTAVA AL",
    "TAeBASSAtDRUM CLEF-1b2"]⟩,
  ⟨0x1D129, [
    "aMUSICAL SYMBOL MULTIPLE MEASURE RESTvDOUBLE SHARPfFLATlFLAT UPcDOWNjNATURAL UPcDOWNmSHARP UPcDOWNkQUARTER T",
    "ONE SHARPfFLATrCOMMON TIMEkUT TIMEiOTTAVA ALTAeBASSAmQUINDICESIMA ALTAeBASSAsMULTI RESTkWHOLE RESTkHALF REST",
    "jQUARTER RESTmEIGHTH RESTlSIXTEENTH RESToTHIRTY-SECOND RESTsSIXTY-FOURTH RESTrONE HUNDRED TWENTY-EIGHTH REST",
    "zfX NOTEHEADkPLUS NOTEHEADnCIRCLE X NOTEHEADrSQUARE NOTEHEAD WHITEfBLACKvTRIANGLE NOTEHEAD UP WHITEfBLACKiLE",
    "FT WHITEfBLACKkRIGHT WHITEfBLACKlDOWN WHITEfBLACKkUP RIGHT WHITEfBLACKzhMOON NOTEHEAD WHITEfBLACKtTRIANGLE-R",
    "OUND NOTEHEAD DOWN WHITEfBLACKzjPARENTHESIS NOTEHEADuVOID NOTEHEADnNOTEHEAD BLACKnULL NOTEHEADnCLUSTER NOTEH",
    "EAD WHITEfBLACKwBREVEfWHOLE NOTEkHALF NOTEjQUARTER NOTEmEIGHTH NOTElSIXTEENTH NOTEoTHIRTY-SECOND NOTEsSIXTY-",
    "FOURTH NOTErONE HUNDRED TWENTY-EIGHTH NOTEzfCOMBINING STEMdPRECHGESANG STEMrTREMOLO-1b2b3tFINGERED TREMOLO-1",
    "b2b3sCOMBINING AUGMENTATION DOTqFLAG-1b2b3b4b5qBEGIN BEAMkEND BEAMiBEGIN TIEjEND TIEhBEGIN SLURkEND SLURiBEG",
    "IN PHRASEmEND PHRASEkCOMBINING ACCENTgSTACCATOiTENUTOgSTACCATISSIMOnMARCATOa-STACCATOqACCENT-STACCATOpLOUREp",
    "ARPEGGIATO UPcDOWNpCOMBINING DOITeRIPdFLIPeSMEARfBENDeDOUBLE TONGUEnTRIPLE TONGUExRINFORZANDOlSUBITOgZbPIANO",
    "fMEZZOfFORTEfCRESCENDOjDECRESCENDOlGRACE NOTE SLASHfNO SLASHtTRbURNeINVERTED TURNnTURN SLASHfUPhORNAMENT STR",
    "OKE-1b2b3b4b5b6b7b8b9b10b1sHAUPTSTIMMElNEBENSTIMMElEND OF STIMMEnDEGREE SLASHmCOMBINING DOWN BOWiUP BOWgHARM",
    "ONICiSNAP PIZZICATOyPEDAL MARKeUP MARKnHALF PEDAL MARKpGLISSANDO UPcDOWNoWITH FINGERNAILSqDAMPa ALLiMAXIMAgL",
    "ONGAfBREVISgSEMIBREVIS WHITEfBLACKqMINIMAa BLACKmSEMIMINIMA WHITEfBLACKqFUSA WHITEfBLACKkLONGA PERFECTA REST",
    "nIMPERFECTA RESTvBREVIS RESTlSEMIBREVIS RESTpMINIMA RESTlSEMIMINIMA RESTpTEMPUS PERFECTUM CUM PROLATIONE PER",
    "FECTAiIMPERFECTAkPERFECTA DIMINUTION-1zvIMPERFECTUM CUM PROLATIONE PERFECTAiIMPERFECTAa DIMINUTION-1b2b3zzhC",
    "ROIXfGREGORIAN C CLEFgF CLEFqSQUARE BiVIRGAfPODATUShCLIVISgSCANDICUSjCLIMACUSiTORCULUSiPORRECTUSa FLEXUSqSCA",
    "NDICUS FLEXUSqTORCULUS RESUPINUSsPES SUBPUNCTISoKIEVAN C CLEFgEND OF PIECEmFINAL NOTEkRECITATIVE MARKpWHOLE ",
    "NOTEkHALF NOTEjQUARTER NOTE STEM DOWNeUPuEIGHTH NOTE STEM DOWNeUPtFLAT SIGNqSORIeKORON"]⟩,
  ⟨0x1D200, [
    "aGREEK VOCAL NOTATION SYMBOL-1b2b3b4b5b6b7b8b9b10b1b2b3b4b5b6b7b8b9c20b1b2b3b4c50b1b2b3b4yINSTRUMENTAL NOTAT",
    "ION SYMBOL-1b2b4b5b7b8b11b2b3b4b7b8b9c23b4b5b6b7b9c30b2b6b7b8b9c40b2b3b5b7b8b9c50b1b2b3b4zmCOMBINING GREEK M",
    "USICAL TRISEMEgETRASEMEjPENTASEMEziGREEK MUSICAL LEIMMA"]⟩,
  ⟨0x1D2E0, [
    "aMAYAN NUMERAL ZEROeONEdTWOcHREEfFOURdIVEeSIXcEVENfEIGHTfNINEeTENdELEVENgTWELVEfHIRTEENiFOURTEENhIFTEENhSIXT",
    "EENgEVENTEENjEIGHTEENiNINETEEN"]⟩,
  ⟨0x1D300, [
    "aMONOGRAM FOR EARTHsDIGRAM FOR HEAVENLY EARTHnUMAN EARTHlEARTHLY HEAVENfUMANjHqTETRAGRAM FOR CENTREgFULL CIR",
    "CLElMIREDfBARRIERhKEEPING SMALLnCONTRARIETYlASCENTgOPPOSITIONkBRANCHING OUTnDEFECTIVENESS OR DISTORTIONzbIVE",
    "RGENCEkYOUTHFULNESSmINCREASEiPENETRATIONlREACHfCONTACThHOLDING BACKmWAITINGhFOLLOWINGjADVANCEhRELEASEfSISTAN",
    "CEkEASEeJOYdCONTENTIONkENDEAVOURjDUTIESgCHANGEgDECISIVENESSmBOLD RESOLUTIONpPACKINGhLEGIONgCLOSENESSjKINSHIP",
    "hGATHERINGjSTRENGTHiPURITYgFULLNESSiRESIDENCEjLAW OR MODELmRESPONSEiGOING TO MEETnENCOUNTERSkSTOVEfGREATNESS",
    "jENLARGEMENTlPATTERNhRITUALgFLIGHTgVASTNESS OR WASTINGtCONSTANCYjMEASUREhETERNITYiUNITYfDIMINISHMENTmCLOSED ",
    "MOUTHmGUARDEDNESSkATHERING INmMASSINGhACCUMULATIONmEMBELLISHMENTnDOUBTfWATCHfSINKINGhINNERfDEPARTUREiARKENIN",
    "GiIMMINGhEXHAUSTIONkSEVERANCEiTOPPAGEiHARDNESSiCOMPLETIONjLOSUREhFAILUREhAGGRAVATIONlCOMPLIANCEkON THE VERGE",
    "mDIFFICULTIESmLABOURINGjFOSTERING"]⟩,
  ⟨0x1D360, [
    "aCOUNTING ROD UNIT DIGIT ONEdTWOcHREEfFOURdIVEeSIXcEVENfEIGHTfNINEpTENS DIGIT ONEdTWOcHREEfFOURdIVEeSIXcEVEN",
    "fEIGHTfNINEzdIDEOGRAPHIC TALLY MARK ONEdTWOcHREEfFOURdIVEzcTALLY MARK ONEdFIVE"]⟩,
  ⟨0x1D400, [
    "aMATHEMATICAL BOLD CAPITAL AbBbCbDbEbFbGbHbIbJbKbLbMbNbObPbQbRbSbTbUbVbWbXbYbZjSMALL AbBbCbDbEbFbGbHbIbJbKbL",
    "bMbNbObPbQbRbSbTbUbVbWbXbYbZmITALIC CAPITAL AbBbCbDbEbFbGbHbIbJbKbLbMbNbObPbQbRbSbTbUbVbWbXbYbZjSMALL AbBbCb",
    "DbEbFbG"]⟩,
  ⟨0x1D456, [
    "aMATHEMATICAL ITALIC SMALL IbJbKbLbMbNbObPbQbRbSbTbUbVbWbXbYbZoBOLD ITALIC CAPITAL AbBbCbDbEbFbGbHbIbJbKbLbM",
    "bNbObPbQbRbSbTbUbVbWbXbYbZjSMALL AbBbCbDbEbFbGbHbIbJbKbLbMbNbObPbQbRbSbTbUbVbWbXbYbZtSCRIPT CAPITAL A"]⟩,
  ⟨0x1D49E, ["aMATHEMATICAL SCRIPT CAPITAL CbD"]⟩,
  ⟨0x1D4A2, ["aMATHEMATICAL SCRIPT CAPITAL G"]⟩,
  ⟨0x1D4A5, ["aMATHEMATICAL SCRIPT CAPITAL JbK"]⟩,
  ⟨0x1D4A9, ["aMATHEMATICAL SCRIPT CAPITAL NbObPbQ"]⟩,
  ⟨0x1D4AE, ["aMATHEMATICAL SCRIPT CAPITAL SbTbUbVbWbXbYbZjSMALL AbBbCbD"]⟩,
  ⟨0x1D4BB, ["aMATHEMATICAL SCRIPT SMALL F"]⟩,
  ⟨0x1D4BD, ["aMATHEMATICAL SCRIPT SMALL HbIbJbKbLbMbN"]⟩,
  ⟨0x1D4C5, [
    "aMATHEMATICAL SCRIPT SMALL PbQbRbSbTbUbVbWbXbYbZoBOLD SCRIPT CAPITAL AbBbCbDbEbFbGbHbIbJbKbLbMbNbObPbQbRbSbT",
    "bUbVbWbXbYbZjSMALL AbBbCbDbEbFbGbHbIbJbKbLbMbNbObPbQbRbSbTbUbVbWbXbYbZtFRAKTUR CAPITAL AbB"]⟩,
  ⟨0x1D507, ["aMATHEMATICAL FRAKTUR CAPITAL DbEbFbG"]⟩,
  ⟨0x1D50D, ["aMATHEMATICAL FRAKTUR CAPITAL JbKbLbMbNbObPbQ"]⟩,
  ⟨0x1D516, ["aMATHEMATICAL FRAKTUR CAPITAL SbTbUbVbWbXbY"]⟩,
  ⟨0x1D51E, [
    "aMATHEMATICAL FRAKTUR SMALL AbBbCbDbEbFbGbHbIbJbKbLbMbNbObPbQbRbSbTbUbVbWbXbYbZpDOUBLE-STRUCK CAPITAL AbB"]⟩,
  ⟨0x1D53B, ["aMATHEMATICAL DOUBLE-STRUCK CAPITAL DbEbFbG"]⟩,
  ⟨0x1D540, ["aMATHEMATICAL DOUBLE-STRUCK CAPITAL IbJbKbLbM"]⟩,
  ⟨0x1D546, ["aMATHEMATICAL DOUBLE-STRUCK CAPITAL O"]⟩,
  ⟨0x1D54A, ["aMATHEMATICAL DOUBLE-STRUCK CAPITAL SbTbUbVbWbXbY"]⟩,
  ⟨0x1D552, [
    "aMATHEMATICAL DOUBLE-STRUCK SMALL AbBbCbDbEbFbGbHbIbJbKbLbMbNbObPbQbRbSbTbUbVbWbXbYbZvBOLD FRAKTUR CAPITAL A",
    "bBbCbDbEbFbGbHbIbJbKbLbMbNbObPbQbRbSbTbUbVbWbXbYbZjSMALL AbBbCbDbEbFbGbHbIbJbKbLbMbNbObPbQbRbSbTbUbVbWbXbYbZ",
    "uSANS-SERIF CAPITAL AbBbCbDbEbFbGbHbIbJbKbLbMbNbObPbQbRbSbTbUbVbWbXbYbZjSMALL AbBbCbDbEbFbGbHbIbJbKbLbMbNbOb",
    "PbQbRbSbTbUbVbWbXbYbZhBOLD CAPITAL AbBbCbDbEbFbGbHbIbJbKbLbMbNbObPbQbRbSbTbUbVbWbXbYbZjSMALL AbBbCbDbEbFbGbH",
    "bIbJbKbLbMbNbObPbQbRbSbTbUbVbWbXbYbZmITALIC CAPITAL AbBbCbDbEbFbGbHbIbJbKbLbMbNbObPbQbRbSbTbUbVbWbXbYbZjSMAL",
    "L AbBbCbDbEbFbGbHbIbJbKbLbMbNbObPbQbRbSbTbUbVbWbXbYbZoBOLD ITALIC CAPITAL AbBbCbDbEbFbGbHbIbJbKbLbMbNbObPbQb",
    "RbSbTbUbVbWbXbYbZjSMALL AbBbCbDbEbFbGbHbIbJbKbLbMbNbObPbQbRbSbTbUbVbWbXbYbZzfMONOSPACE CAPITAL AbBbCbDbEbFbG",
    "bHbIbJbKbLbMbNbObPbQbRbSbTbUbVbWbXbYbZjSMALL AbBbCbDbEbFbGbHbIbJbKbLbMbNbObPbQbRbSbTbUbVbWbXbYbZrITALIC SMAL",
    "L DOTLESS IbJ"]⟩,
  ⟨0x1D6A8, [
    "aMATHEMATICAL BOLD CAPITAL ALPHAfBETAeGAMMAfDELTAfEPSILONhZETAeETAdTHETAfIOTAeKAPPAfLAMDAfMUcNUcXIcOMICRONhP",
    "IcRHOdTHETA SYMBOLmSIGMAfTAUdUPSILONhPHIdCHIdPSIdOMEGAnNABLAfSMALL ALPHAfBETAeGAMMAfDELTAfEPSILONhZETAeETAdT",
    "HETAfIOTAeKAPPAfLAMDAfMUcNUcXIcOMICRONhPIcRHOdFINAL SIGMAlSIGMAfTAUdUPSILONhPHIdCHIdPSIdOMEGAlPARTIAL DIFFER",
    "ENTIALuEPSILON SYMBOLoTHETA SYMBOLmKAPPA SYMBOLmPHI SYMBOLkRHO SYMBOLkPI SYMBOLoITALIC CAPITAL ALPHAfBETAeGA",
    "MMAfDELTAfEPSILONhZETAeETAdTHETAfIOTAeKAPPAfLAMDAfMUcNUcXIcOMICRONhPIcRHOdTHETA SYMBOLmSIGMAfTAUdUPSILONhPHI",
    "dCHIdPSIdOMEGAnNABLAfSMALL ALPHAfBETAeGAMMAfDELTAfEPSILONhZETAeETAdTHETAfIOTAeKAPPAfLAMDAfMUcNUcXIcOMICRONhP",
    "IcRHOdFINAL SIGMAlSIGMAfTAUdUPSILONhPHIdCHIdPSIdOMEGAlPARTIAL DIFFERENTIALuEPSILON SYMBOLoTHETA SYMBOLmKAPPA",
    " SYMBOLmPHI SYMBOLkRHO SYMBOLkPI SYMBOLqBOLD ITALIC CAPITAL ALPHAfBETAeGAMMAfDELTAfEPSILONhZETAeETAdTHETAfIO",
    "TAeKAPPAfLAMDAfMUcNUcXIcOMICRONhPIcRHOdTHETA SYMBOLmSIGMAfTAUdUPSILONhPHIdCHIdPSIdOMEGAnNABLAfSMALL ALPHAfBE",
    "TAeGAMMAfDELTAfEPSILONhZETAeETAdTHETAfIOTAeKAPPAfLAMDAfMUcNUcXIcOMICRONhPIcRHOdFINAL SIGMAlSIGMAfTAUdUPSILON",
    "hPHIdCHIdPSIdOMEGAlPARTIAL DIFFERENTIALuEPSILON SYMBOLoTHETA SYMBOLmKAPPA SYMBOLmPHI SYMBOLkRHO SYMBOLkPI SY",
    "MBOLvSANS-SERIF BOLD CAPITAL ALPHAfBETAeGAMMAfDELTAfEPSILONhZETAeETAdTHETAfIOTAeKAPPAfLAMDAfMUcNUcXIcOMICRON",
    "hPIcRHOdTHETA SYMBOLmSIGMAfTAUdUPSILONhPHIdCHIdPSIdOMEGAnNABLAfSMALL ALPHAfBETAeGAMMAfDELTAfEPSILONhZETAeETA",
    "dTHETAfIOTAeKAPPAfLAMDAfMUcNUcXIcOMICRONhPIcRHOdFINAL SIGMAlSIGMAfTAUdUPSILONhPHIdCHIdPSIdOMEGAlPARTIAL DIFF",
    "ERENTIALuEPSILON SYMBOLoTHETA SYMBOLmKAPPA SYMBOLmPHI SYMBOLkRHO SYMBOLkPI SYMBOLjITALIC CAPITAL ALPHAfBETAe",
    "GAMMAfDELTAfEPSILONhZETAeETAdTHETAfIOTAeKAPPAfLAMDAfMUcNUcXIcOMICRONhPIcRHOdTHETA SYMBOLmSIGMAfTAUdUPSILONhP",
    "HIdCHIdPSIdOMEGAnNABLAfSMALL ALPHAfBETAeGAMMAfDELTAfEPSILONhZETAeETAdTHETAfIOTAeKAPPAfLAMDAfMUcNUcXIcOMICRON",
    "hPIcRHOdFINAL SIGMAlSIGMAfTAUdUPSILONhPHIdCHIdPSIdOMEGAlPARTIAL DIFFERENTIALuEPSILON SYMBOLoTHETA SYMBOLmKAP",
    "PA SYMBOLmPHI SYMBOLkRHO SYMBOLkPI SYMBOLzhBOLD CAPITAL DIGAMMApSMALL DIGAMMA"]⟩,
  ⟨0x1D7CE, [
    "aMATHEMATICAL BOLD DIGIT ZEROeONEdTWOcHREEfFOURdIVEeSIXcEVENfEIGHTfNINEpDOUBLE-STRUCK DIGIT ZEROeONEdTWOcHRE",
    "EfFOURdIVEeSIXcEVENfEIGHTfNINEySANS-SERIF DIGIT ZEROeONEdTWOcHREEfFOURdIVEeSIXcEVENfEIGHTfNINEkBOLD DIGIT ZE",
    "ROeONEdTWOcHREEfFOURdIVEeSIXcEVENfEIGHTfNINEzbMONOSPACE DIGIT ZEROeONEdTWOcHREEfFOURdIVEeSIXcEVENfEIGHTfNINE",
    "ziSIGNWRITING HAND-FIST INDEXkCIRCLE INDEXlUP INDEXjOVAL INDEXkHINGE INDEXlANGLE INDEXlFIST INDEX BENTpCIRCL",
    "E INDEX BENTrFIST THUMB UNDER INDEX BENTwINDEX RAISED KNUCKLEoCUPPEDgHINGEDa LOWvCIRCLE INDEX HINGEsFIST IND",
    "EX MIDDLErCIRCLE INDEX MIDDLEtFIST INDEX MIDDLE BENTeRAISED KNUCKLESpHINGEDnUP MIDDLE HINGEDqHINGED MIDDLE U",
    "PqMIDDLE CONJOINEDa INDEX BENTkMIDDLE BENTlCUPPEDgHINGEDpROSSEDzaCIRCLE INDEX MIDDLE CROSSEDzcFIST MIDDLE BE",
    "NT OVER INDEXwINDEX BENT OVER MIDDLEqMIDDLE THUMBxCIRCLE INDEX MIDDLE THUMBzaFIST INDEX MIDDLE STRAIGHT THUM",
    "B BENTtBENT THUMB STRAIGHTtTHUMB BENTkHINGED SPREAD THUMB SIDEzgUP MIDDLE HINGED THUMB SIDEeCONJOINEDzhHINGE",
    "D MIDDLE UP THUMB SIDEzcMIDDLE UP SPREAD THUMB FORWARDxTHUMB CUPPEDfIRCLEDhHOOKEDfINGEDzaTHUMB BETWEEN INDEX",
    " MIDDLE STRAIGHTzkINDEX MIDDLE CONJOINED THUMB SIDEa CONJOINEDjBENTznMIDDLE THUMB HOOKED INDEX UPzdINDEX THU",
    "MB HOOKED MIDDLE UPwMIDDLE CONJOINED HINGED THUMB SIDEzbROSSED THUMB SIDErONJOINED THUMB FORWARDnCUPPED THUM",
    "B FORWARDzsMIDDLE THUMB CUPPED INDEX UPzdINDEX THUMB CUPPED MIDDLE UPzdMIDDLE THUMB CIRCLED INDEX UPcHINGEDz",
    "iINDEX THUMB ANGLED OUT MIDDLE UPnIN MIDDLE UPtCIRCLED MIDDLE UPxMIDDLE THUMB CONJOINED HINGEDqANGLED OUTfDz",
    "aMIDDLE THUMB ANGLED OUT INDEX UPcCROSSEDrINDEX UPzdINDEX THUMB HOOKED MIDDLE HINGEDzlLAT FOUR FINGERSa BENT",
    "eHINGEDgCONJOINEDa SPLITziCLAW FOUR FINGERS CONJOINEDzcFIST FOUR FINGERS CONJOINED BENTzhHINGE FOUR FINGERS ",
    "CONJOINEDzdFLAT FIVE FINGERS SPREADtHEEL FIVE FINGERS SPREADyFIVE FINGERS SPREAD FOUR BENTzeHEEL FIVE FINGER",
    "S SPREAD FOUR BENTzjFIVE FINGERS SPREAD BENTyHEEL FIVE FINGERS SPREAD BENTzeFIVE FINGERS SPREAD THUMB FORWAR",
    "DznCUP FIVE FINGERS SPREADa OPENzdHINGE FIVE FINGERS SPREAD OPENzfOVAL FIVE FINGERS SPREADyFLAT FIVE FINGERS",
    " SPREAD HINGEDa THUMB SIDEkNO THUMBzmTa BETWEEN PALM FACINGSuHEELeTHUMB SIDEkHEEL THUMB SIDEpTHUMB BENTeFORW",
    "ARDnSPLIT INDEX THUMB SIDEqCENTREa THUMB SIDEa BENTwLITTLErCLAWa THUMB SIDEkNO THUMBiTHUMB FORWARDsHOOK CURL",
    "ICUEkKeCUP OPENgPa OPEN THUMB SIDEpTHUMB SIDEkOPEN NO THUMBnNO THUMBiOPEN THUMB FORWARDsTHUMB FORWARDpRLICUE",
    " OPENgEhIRCLEgOVALa THUMB SIDEkNO THUMBiTHUMB FORWARDsHINGE OPENa THUMB FORWARDuEa SMALLfOPEN THUMB SIDEpTHU",
    "MB SIDEkOPEN NO THUMBnNO THUMBiTHUMB SIDE TOUCHING INDEXtBETWEEN MIDDLE RINGzgANGLEfFIST INDEX MIDDLE RINGwC",
    "IRCLE INDEX MIDDLE RINGyHINGE INDEX MIDDLE RINGxANGLE INDEX MIDDLE RINGxHINGE LITTLEmFIST INDEX MIDDLE RING ",
    "BENTeCONJOINEDzhHINGE INDEX MIDDLE RING CONJOINEDziFIST LITTLE DOWNa RIPPLE STRAIGHTiCURVEDnOTHERS CIRCLEDtU",
    "PjTHUMB UNDER LITTLE UPzbCIRCLE LITTLE UPqOVAL LITTLE UPoANGLE LITTLE UPpFIST LITTLE RAISED KNUCKLEoBENTeTOU",
    "CHES THUMBmHUMBrHINGE LITTLE THUMBsFIST LITTLE INDEX THUMBxHINGE LITTLE INDEX THUMByANGLE LITTLE INDEX THUMB",
    " INDEX THUMB OUTfBzlFIST LITTLE INDEXrCIRCLE LITTLE INDEXtHINGE LITTLE INDEXsANGLE LITTLE INDEXsFIST INDEX M",
    "IDDLE LITTLEyCIRCLE INDEX MIDDLE LITTLEzbHINGE INDEX MIDDLE LITTLEtRINGkANGLE INDEX MIDDLE LITTLEzaFIST INDE",
    "X MIDDLE CROSS LITTLEzfCIRCLE INDEX MIDDLE CROSS LITTLEzhFIST RING DOWNoHINGE RING DOWN INDEX THUMB HOOK MID",
    "DLEzoANGLE RING DOWN MIDDLE THUMB INDEX CROSSzpFIST RING UPcRAISED KNUCKLEoLITTLEqCIRCLE RING LITTLEsOVAL RI",
    "NG LITTLEqANGLE RING LITTLErFIST RING MIDDLEa CONJOINEDjRAISED KNUCKLESwINDEXfTHUMBpHOOK RING THUMBpFIST IND",
    "EX RING LITTLEwCIRCLE INDEX RING LITTLExURLICUE INDEX RING LITTLE ONzeHOOK INDEX RING LITTLE OUTdINcUNDERzdC",
    "UP INDEX RING LITTLEvHINGE INDEX RING LITTLExANGLE INDEX RING LITTLE OUTfExFIST MIDDLE DOWNqHINGE MIDDLEmFIS",
    "T MIDDLE UPoCIRCLE MIDDLE UPqFIST MIDDLE RAISED KNUCKLEoUP THUMB SIDEzaHOOK MIDDLE THUMBrFIST MIDDLE THUMB L",
    "ITTLEmLITTLEgRING LITTLExCIRCLE MIDDLE RING LITTLEyURLICUE MIDDLE RING LITTLE ONzdP MIDDLE RING LITTLEwHINGE",
    " MIDDLE RING LITTLEyANGLE MIDDLE RING LITTLE OUTdINeEyCIRCLE MIDDLE RING LITTLE BENTzeLAW MIDDLE RING LITTLE",
    " CONJOINEDa SIDEznHOOK MIDDLE RING LITTLE CONJOINED OUTdINeDzhINGE INDEX HINGEDsFIST INDEX THUMB SIDEvHINGE ",
    "INDEX THUMB SIDEwFIST INDEX THUMB SIDE THUMB DIAGONALiCONJOINEDjBENTkINDEX BENTkBOTH BENTjINDEX HINGEqFORWAR",
    "D INDEX STRAIGHTiBENTsHOOKeCURLICUEfVE THUMB INSIDEzkCLAW INDEX THUMB CURVE THUMB INSIDEzkFIST INDEX THUMB C",
    "URVE THUMB UNDERqIRCLExCUP INDEX THUMBa OPENuHINGE INDEX THUMB OPENeLARGEhBa SMALLxANGLE INDEX THUMB OUTdINe",
    "BrFIST THUMBa HEELeSIDE DIAGONALiCONJOINEDjBENTjFORWARDhBETWEEN INDEX MIDDLEmMIDDLE RINGlRING LITTLEtUNDER T",
    "WO FINGERSrOVER TWO FINGERSqUNDER THREE FINGERSnFOUR FINGERSsOVER FOUR RAISED KNUCKLESziTa HEELoTOUCH SINGLE",
    "gMULTIPLEiBETWEENnGRASP SINGLEgMULTIPLEiBETWEENnSTRIKE SINGLEgMULTIPLEiBETWEENoBRUSH SINGLEgMULTIPLEiBETWEEN",
    "nRUB SINGLEgMULTIPLEiBETWEENlSURFACE SYMBOLShBETWEENoQUEEZE LARGE SINGLEmSMALL SINGLEmLARGE MULTIPLEoSMALL M",
    "ULTIPLEnEQUENTIALsFLICK LARGE SINGLEmSMALL SINGLEmLARGE MULTIPLEoSMALL MULTIPLEnEQUENTIALqSQUEEZE FLICK ALTE",
    "RNATINGzaMOVEMENT-HINGE UP DOWN LARGEfSMALLkSEQUENTIALnDOWN SEQUENTIALpUP DOWN ALTERNATING LARGEfSMALLzaSIDE",
    " TO SIDE SCISSORSzcWALLPLANE FINGER CONTACTyFLOORPLANE FINGER CONTACTzaWALLPLANE SINGLE STRAIGHT SMALLfMEDIU",
    "MgLARGEaSTqWRIST FLEXrDOUBLE STRAIGHTiWRIST FLEXkALTERNATINGa WRIST FLEXzeCROSSfTRIPLE STRAIGHT MOVEMENTrWRI",
    "ST FLEXkALTERNATINGa WRIST FLEXzeBEND SMALLfMEDIUMgLARGEkCORNER SMALLfMEDIUMgLARGEfROTATIONoHECK SMALLfMEDIU",
    "MgLARGElBOX SMALLfMEDIUMgLARGEjZIGZAG SMALLfMEDIUMgLARGEmPEAKS SMALLfMEDIUMgLARGEzfTRAVEL-WALLPLANE ROTATION",
    "-WALLPLANE SINGLEgDOUBLEgALTERNATINGvFLOORPLANE SINGLEgDOUBLEgALTERNATINGzgSHAKINGhARM SPIRAL SINGLEgDOUBLEg",
    "TRIPLEzjMOVEMENT-DIAGONAL AWAY SMALLfMEDIUMgLARGEaSTmTOWARDS SMALLfMEDIUMgLARGEaSTpBETWEEN AWAY SMALLfMEDIUM",
    "gLARGEaSTmTOWARDS SMALLfMEDIUMgLARGEaSTzhFLOORPLANE SINGLE STRAIGHT SMALLfMEDIUMgLARGEaSTqWRIST FLEXrDOUBLE ",
    "STRAIGHTiWRIST FLEXkALTERNATINGa WRIST FLEXzeCROSSfTRIPLE STRAIGHT MOVEMENTrWRIST FLEXkALTERNATING MOVEMENTi",
    "WRIST FLEXzeBENDeCORNER SMALLfMEDIUMgLARGElHECKfBOX SMALLfMEDIUMgLARGEjZIGZAG SMALLfMEDIUMgLARGEmPEAKS SMALL",
    "fMEDIUMgLARGEzgTRAVEL-FLOORPLANE ROTATION-FLOORPLANE SINGLEgDOUBLEgALTERNATINGwWALLPLANE SINGLEgDOUBLEgALTER",
    "NATINGzfSHAKINGzaMOVEMENT-WALLPLANE CURVE QUARTER SMALLfMEDIUMgLARGEaSTpHALF-CIRCLE SMALLfMEDIUMgLARGEaSTtTH",
    "REE-QUARTER CIRCLE SMALLfMEDIUMziHUMP SMALLfMEDIUMgLARGEkLOOP SMALLfMEDIUMgLARGEfSMALL DOUBLErWAVE CURVE DOU",
    "BLE SMALLfMEDIUMgLARGEmTRIPLE SMALLfMEDIUMgLARGExCURVE THEN STRAIGHToD CROSS SMALLfMEDIUMznROTATION-WALLPLAN",
    "E SINGLEgDOUBLEgALTERNATEzdMOVEMENT-WALLPLANE SHAKINGhCURVE HITTING FRONT WALLyHUMP HITTING FRONT WALLxLOOP ",
    "HITTING FRONT WALLxWAVE HITTING FRONT WALLzrROTATION-WALLPLANE SINGLE HITTING FRONT WALLzaDOUBLE HITTING FRO",
    "NT WALLzaALTERNATING HITTING FRONT WALLzyMOVEMENT-WALLPLANE CURVE HITTING CHESTtHUMP HITTING CHESTsLOOP HITT",
    "ING CHESTsWAVE HITTING CHESTzmROTATION-WALLPLANE SINGLE HITTING CHESTuDOUBLE HITTING CHESTuALTERNATING HITTI",
    "NG CHESTztMOVEMENT-WALLPLANE WAVE DIAGONAL PATH SMALLfMEDIUMgLARGEzjFLOORPLANE CURVE HITTING CEILING SMALLfL",
    "ARGEzcHUMP HITTING CEILING SMALL DOUBLEmLARGE DOUBLEmSMALL TRIPLEmLARGE TRIPLEziLOOP HITTING CEILING SMALL S",
    "INGLEmLARGE SINGLEmSMALL DOUBLEmLARGE DOUBLEziWAVE HITTING CEILING SMALLfLARGEzvROTATION-FLOORPLANE SINGLE H",
    "ITTING CEILINGwDOUBLE HITTING CEILINGwALTERNATING HITTING CEILINGzwMOVEMENT-FLOORPLANE CURVE HITTING FLOOR S",
    "MALLfLARGEzaHUMP HITTING FLOOR SMALL DOUBLEmLARGE DOUBLEmTRIPLE SMALL TRIPLEmLARGE TRIPLEznLOOP HITTING FLOO",
    "R SMALL SINGLEmLARGE SINGLEmSMALL DOUBLEmLARGE DOUBLEzgWAVE HITTING FLOOR SMALLfLARGEztROTATION-FLOORPLANE S",
    "INGLE HITTING FLOORuDOUBLE HITTING FLOORuALTERNATING HITTING FLOORzuMOVEMENT-FLOORPLANE CURVE SMALLfMEDIUMgL",
    "ARGEaSThCOMBINEDoHUMP SMALLkLOOP SMALLkWAVE SNAKEeMALLfLARGEzfROTATION-FLOORPLANE SINGLEgDOUBLEgALTERNATINGz",
    "gMOVEMENT-FLOORPLANE SHAKING PARALLELzcWALLPLANE ARM CIRCLE SMALL SINGLEmMEDIUM SINGLEnSMALL DOUBLEmMEDIUM D",
    "OUBLEzjFLOORPLANE ARM CIRCLE HITTING WALL SMALL SINGLEmMEDIUM SINGLEnLARGE SINGLEmSMALL DOUBLEmMEDIUM DOUBLE",
    "nLARGE DOUBLEzwWALLPLANE WRIST CIRCLE FRONT SINGLEgDOUBLEzkFLOORPLANE WRIST CIRCLE HITTING WALL SINGLEgDOUBL",
    "EzsWALLPLANE FINGER CIRCLES SINGLEgDOUBLEzgFLOORPLANE FINGER CIRCLES HITTING WALL SINGLEgDOUBLEzzeDYNAMIC AR",
    "ROWHEAD SMALLfLARGEpFASTeSLOWeTENSEfRELAXEDhSIMULTANEOUSa ALTERNATINGyEVERY OTHER TIMEqGRADUALpHEADa RIMdMOV",
    "EMENT-WALLPLANE STRAIGHTiTILToFLOORPLANE STRAIGHTtWALLPLANE CURVEpFLOORPLANE CURVEr CIRCLEuFACE DIRECTION PO",
    "SITION NOSE FORWARD TILTINGpUP OR DOWNa TILTINGzwEYEBROWS STRAIGHT UPcNEUTRALhDOWNwDREAMY EYEBROWS NEUTRAL D",
    "OWNmDOWN NEUTRALmUP NEUTRALkNEUTRAL UPzbFOREHEAD NEUTRALhCONTACThWRINKLEDrEYES OPENeSQUEEZEDiCLOSEDi BLINK S",
    "INGLEgMULTIPLEpS HALF OPENjWIDE OPENjHALF CLOSEDlWIDENING MOVEMENTt WINKfLASHES UPcDOWNeFLUTTERINGrGAZE-WALL",
    "PLANE STRAIGHTa DOUBLEgALTERNATINGzfFLOORPLANE STRAIGHTa DOUBLEgALTERNATINGzgWALLPLANE CURVEDqFLOORPLANE CUR",
    "VEDrWALLPLANE CIRCLINGzbCHEEKS PUFFEDgNEUTRALhSUCKEDnTENSE CHEEKS HIGHeMIDDLEgLOWqEARSeNOSE NEUTRALhCONTACTh",
    "WRINKLEShIGGLESmAIR BLOWING OUTlSUCKING INkBLOW SMALL ROTATIONSuSUCK SMALL ROTATIONSyBREATH INHALEgEXHALEnMO",
    "UTH CLOSED NEUTRALhFORWARDhCONTACToSMILEa WRINKLEDiOPENkFROWNa WRINKLEDiOPENkOPEN CIRCLEgFORWARDhWRINKLEDiOV",
    "ALa WRINKLEDiYAWNjRECTANGLEa WRINKLEDiYAWNtKISSa FORWARDhWRINKLEDnTENSEa FORWARDhSUCKEDsLIPS PRESSED TOGETHE",
    "Rs LOWER OVER UPPERqUPPER OVER LOWERuMOUTH CORNERShWRINKLES SINGLEgDOUBLEvTONGUE STICKING OUT FARqLICKING LI",
    "PSmTIP BETWEEN LIPSmTOUCHING INSIDE MOUTHzaINSIDE MOUTH RELAXEDuMOVES AGAINST CHEEKtCENTRE STICKING OUTmINSI",
    "DE MOUTHzaEETHa MOVEMENTiON TONGUEa MOVEMENTpLIPSa MOVEMENTqBITE LIPSpMOVEMENT-WALLPLANE JAWnFLOORPLANE JAWx",
    "NECKeHAIReEXCITEMENTkSHOULDER HIP SPINEfPOSITIONSwWALLPLANE SHOULDER HIP MOVEzcFLOORPLANE SHOULDER HIP MOVEz",
    "dSHOULDER TILTING FROM WAISTzcTORSO-WALLPLANE STRAIGHT STRETCHqCURVED BENDvFLOORPLANE TWISTINGzaUPPER BODY T",
    "ILTING FROM HIP JOINTSzjLIMB COMBINATIONlLENGTH-1b2b3b4b5b6b7nFINGERgLOCATION-WALLPLANE SPACEpFLOORPLANE SPA",
    "CEr HEIGHTgWIDTHfDEPTHfHEAD NECKjTORSOfLIMBS DIGITSvCOMMAfFULL STOPjSEMICOLONjCOLONfPARENTHESIS"]⟩,
  ⟨0x1DA9B, ["aSIGNWRITING FILL MODIFIER-2b3b4b5b6"]⟩,
  ⟨0x1DAA1, ["aSIGNWRITING ROTATION MODIFIER-2b3b4b5b6b7b8b9b10b1b2b3b4b5b6"]⟩,
  ⟨0x1DF00, [
    "aLATIN SMALL LETTER FENG DIGRAPH WITH TRILLxREVERSED SCRIPT GzfLETTER SMALL CAPITAL TURNED GzeSMALL LETTER R",
    "EVERSED KxLETTER SMALL CAPITAL L WITH BELTzhSMALL LETTER LEZH WITH RETROFLEX HOOKyTURNED Y WITH BELTsREVERSE",
    "D ENGmTURNED R WITH LONG LEG AND RETROFLEX HOOKzp WITH HOOK AND RETROFLEX HOOKzsLETTER RETROFLEX CLICK WITH ",
    "RETROFLEX HOOKzrSMALL LETTER ESH WITH DOUBLE BARa AND CURLzdTURNED T WITH CURLzgLETTER INVERTED GLOTTAL STOP",
    " WITH CURLzgSTRETCHED C WITH CURLuMALL CAPITAL TURNED KzeSMALL LETTER L WITH FISHHOOKpDEZH DIGRAPH WITH PALA",
    "TAL HOOKzfL WITH BELT AND PALATAL HOOKzdENG WITH PALATAL HOOKvTURNED R WITH PALATAL HOOKzbR WITH FISHHOOK AN",
    "D PALATAL HOOKzhTESH DIGRAPH WITH PALATAL HOOKzfEZH WITH PALATAL HOOKvDEZH DIGRAPH WITH RETROFLEX HOOKzhI WI",
    "TH STROKE AND RETROFLEX HOOKzhO WITH RETROFLEX HOOKvTESH DIGRAPH WITH RETROFLEX HOOKzhC WITH RETROFLEX HOOKv",
    "S WITH CURL"]⟩,
  ⟨0x1E000, ["aCOMBINING GLAGOLITIC LETTER AZUdBUKYeVEDEeGLAGOLIhDOBROfYESTUfZHIVETE"]⟩,
  ⟨0x1E008, [
    "aCOMBINING GLAGOLITIC LETTER ZEMLJAgIZHEdNITIAL IZHEmIbDJERVIgKAKOeLJUDIJEhMYSLITEhNASHIfONUdPOKOJIgRITSIfSL",
    "OVOfTVRIDOgUKUdFRITUfHERU"]⟩,
  ⟨0x1E01B, ["aCOMBINING GLAGOLITIC LETTER SHTAeTSIdCHRIVIgSHAdYERUbIdATI"]⟩,
  ⟨0x1E023, ["aCOMBINING GLAGOLITIC LETTER YUcSMALL YUS"]⟩,
  ⟨0x1E026, ["aCOMBINING GLAGOLITIC LETTER YOcIOTATED SMALL YUSrBIG YUShIOTATED BIG YUSpFITA"]⟩,
  ⟨0x1E100, [
    "aNYIAKENG PUACHUE HMONG LETTER MAcTSAdNTAdTAcHAcNAcXAcNKAdCAcLAcSAcZAcNCAcTSAeKAcDAcNYAcRAdVAcNTXAeTXAdFAcRA",
    "cQAcYAcNQAdPAcXYAdNPAdDLAdNPLAeHAHdMLAdPLAdGAcRRAdAaAcIbUbOaOcEaEcW"]⟩,
  ⟨0x1E130, [
    "aNYIAKENG PUACHUE HMONG TONE-BbMbJbVbSbGbDgSIGN FOR PERSONgTHINGfLOCATIONiANIMALgINVERTEBRATEqXW XWjYLLABLE ",
    "LENGTHENER"]⟩,
  ⟨0x1E140, ["aNYIAKENG PUACHUE HMONG DIGIT ZEROeONEdTWOcHREEfFOURdIVEeSIXcEVENfEIGHTfNINE"]⟩,
  ⟨0x1E14E, ["aNYIAKENG PUACHUE HMONG LOGOGRAM NYAJnCIRCLED CA"]⟩,
  ⟨0x1E290, [
    "aTOTO LETTER PAcBAcTAcDAcKAcGAcMAcNAbGAdSAcCHAdYAcWAcJAcHAcRAcLAcIbBREATHY IjIUcBREATHY IUkUbEbBREATHY EjEOc",
    "BREATHY EOkObAEcBREATHY AEkAiSIGN RISING TONE"]⟩,
  ⟨0x1E2C0, [
    "aWANCHO LETTER AAcAbBAcCAcDAcGAcYAcPHAdLAcNAcPAcTAbHAdFAcSAbHAdJAcZAcWAcVAcKAcObAUcRAcMAcKHAdHAcEbIbNGAdUbLL",
    "HAeTSAcRAdONGdAANGdNGdINGdONcENcAANdNYAdUENdYIHkTONE TUPaNIfKOIaNIkDIGIT ZEROeONEdTWOcHREEfFOURdIVEeSIXcEVEN",
    "fEIGHTfNINE"]⟩,
  ⟨0x1E2FF, ["aWANCHO NGUN SIGN"]⟩,
  ⟨0x1E7E0, ["aETHIOPIC SYLLABLE HHYAbUbIbAAcEEcEbO"]⟩,
  ⟨0x1E7E8, ["aETHIOPIC SYLLABLE GURAGE HHWAlHHWIbEEcE"]⟩,
  ⟨0x1E7ED, ["aETHIOPIC SYLLABLE GURAGE MWIbEE"]⟩,
  ⟨0x1E7F0, ["aETHIOPIC SYLLABLE GURAGE QWIbEEcEdBWIbEEeKWIbEEcEdGWIbEEcEdFWIbEEePWIbEE"]⟩,
  ⟨0x1E800, [
    "aMENDE KIKAKUI SYLLABLE M001 KIe2 KAe3 KUf65 KEEg95 KEf76 KOOg48 KOg179 KUAh004 WIe5 WAe6 WUg126 WEEg18 WEe4",
    " WOOh045 WOg194 WUIg43 WEIh061 WVIg49 WVAh139 WVEh007 MINf8 MANf9 MUNg59 MENg94 MONh154 MUANh89 MUENi010 BIe",
    "1 BAe2 BUg150 BEEh097 BEg103 BOOg38 BOg013 Id4 Ad5 Uf163 EEf00 Ee65 OOf47 Oe37 EIe1 INe5 INf95 ANf78 ENg019 ",
    "SIf20 SAe1 SUg162 SEEg16 SEf36 SOOh079 SOg196 SIAh025 LIe6 LAe7 LUf84 LEEg73 LEf54 LOOh153 LOf10 LONG LEl016",
    " DIe7 DAe8 DUf89 DEEh180 DOOf1 DOg022 TIe3 TAe4 TUf91 TEEg55 TEg104 TOOh069 TOf28 JIe9 JAf30 JUg157 JEEg13 J",
    "Ef60 JOOh063 JOg175 LONG JOl031 YIe2 YAe3 YUg109 YEEh080 YEg141 YOOg21 YOg034 FIe5 FAe6 FUf78 FEEf5 FEg133 F",
    "OOh088 FOg197 FUAg01 FANh037 NINf8 NANf9 NUNh117 NENg69 NONg76 HIg041 HAg186 HUg040 HEEg96 HEf42 HOOh140 HOg",
    "083 HEEIi128 HOOUi053 HINh130 HANh087 HUNg52 HENh193 HONh046 HUANh90 NGGIh43 NGGAh82 NGGUi115 NGGEEi46 NGGEh",
    "56 NGGOOi20 NGGOh59 NGGAAi27 NGGUAj086 LONG NGGEn106 LONG NGGOOn83 LONG NGGOm55 GIf11 GAf68 GUf90 GEEg66 GUE",
    "Ig7 GUANh84 NGENi057 NGONi177 NGUANj068 PIf99 PAf50 PUf81 PEEg51 PEg102 POOh066 POg145 MBIh062 MBAh122 MBUh0",
    "47 MBEEi188 MBEEi072 MBEh172 MBOOg4 MBOg87 MBUUh61 LONG MBEl05 LONG MBOOm42 LONG MBOl32 KPIh092 KPAg74 KPUg4",
    "4 KPEEi108 KPEg12 KPOOh58 KPOg24 GBIh056 GBAh148 GBUh093 GBEEi107 GBEh071 GBOOg0 GBOh171 RAf23 NDIf9 NDAf5 N",
    "DUg91 NDEEh19 NDEh067 NDOOg4 NDOh152 NJAg92 NJUg49 NJEEh34 NJOOh82 VIe5 VAf51 VUf73 VEEh085 VEg144 VOOh077 V",
    "Og164 NYINi058 NYANi170 NYUNi098 NYENh60 NYON"]⟩,
  ⟨0x1E8C7, [
    "aMENDE KIKAKUI DIGIT ONEdTWOcHREEfFOURdIVEeSIXcEVENfEIGHTfNINEkCOMBINING NUMBER TEENSdNSeHUNDREDSiTHOUSANDSi",
    "EN THOUSANDSnHUNDRED THOUSANDSrMILLIONS"]⟩,
  ⟨0x1E900, [
    "aADLAM CAPITAL LETTER ALIFeDAALIfLAAMeMIIMeBAcSINNYIIYHEkPEcBHEdRAcEbFAcIbObDHAdYHEdWAWdNUNdKAFdYAcUbJIIMeCH",
    "IdHAcQAAFeGAcNYAdTUcNHAdVAcKHAdGBEdZALdKPOdSHAsSMALL LETTER ALIFeDAALIfLAAMeMIIMeBAcSINNYIIYHEkPEcBHEdRAcEbF",
    "AcIbObDHAdYHEdWAWdNUNdKAFdYAcUbJIIMeCHIdHAcQAAFeGAcNYAdTUcNHAdVAcKHAdGBEdZALdKPOdSHAqALIF LENGTHENERpVOWEL L",
    "ENGTHENERqGEMINATION MARKpHAMZAfCONSONANT MODIFIERsGEMINATE CONSONANT MODIFIERzcNUKTAeASALIZATION MARK"]⟩,
  ⟨0x1E950, ["aADLAM DIGIT ZEROeONEdTWOcHREEfFOURdIVEeSIXcEVENfEIGHTfNINE"]⟩,
  ⟨0x1E95E, ["aADLAM INITIAL EXCLAMATION MARKqQUESTION MARK"]⟩,
  ⟨0x1EC71, [
    "aINDIC SIYAQ NUMBER ONEdTWOcHREEfFOURdIVEeSIXcEVENfEIGHTfNINEeTENcWENTYfHIRTYgFORTYeIFTYfSIXTYeEVENTYhEIGHTY",
    "gNINETYgONE HUNDREDlTWO HUNDREDkHREE HUNDREDnFOUR HUNDREDlIVE HUNDREDmSIX HUNDREDkEVEN HUNDREDnEIGHT HUNDRED",
    "nNINE HUNDREDmONE THOUSANDmTWO THOUSANDlHREE THOUSANDoFOUR THOUSANDmIVE THOUSANDnSIX THOUSANDlEVEN THOUSANDo",
    "EIGHT THOUSANDoNINE THOUSANDnTEN THOUSANDlWENTY THOUSANDoHIRTY THOUSANDpFORTY THOUSANDnIFTY THOUSANDoSIXTY T",
    "HOUSANDnEVENTY THOUSANDqEIGHTY THOUSANDpNINETY THOUSANDpLAKHaANnLAKH MARKjNUMBER KARORaANhPREFIXED ONEdTWOcH",
    "REEfFOURdIVEeSIXcEVENfEIGHTfNINEuPLACEHOLDERlFRACTION ONE QUARTERhHALFiTHREE QUARTERSxRUPEE MARKkNUMBER ALTE",
    "RNATE ONEdTWOcEN THOUSANDzeALTERNATE LAKH MARK"]⟩,
  ⟨0x1ED01, [
    "aOTTOMAN SIYAQ NUMBER ONEdTWOcHREEfFOURdIVEeSIXcEVENfEIGHTfNINEeTENcWENTYfHIRTYgFORTYeIFTYfSIXTYeEVENTYhEIGH",
    "TYgNINETYgONE HUNDREDlTWO HUNDREDkHREE HUNDREDnFOUR HUNDREDlIVE HUNDREDmSIX HUNDREDkEVEN HUNDREDnEIGHT HUNDR",
    "EDnNINE HUNDREDmONE THOUSANDmTWO THOUSANDlHREE THOUSANDoFOUR THOUSANDmIVE THOUSANDnSIX THOUSANDlEVEN THOUSAN",
    "DoEIGHT THOUSANDoNINE THOUSANDnTEN THOUSANDlWENTY THOUSANDoHIRTY THOUSANDpFORTY THOUSANDnIFTY THOUSANDoSIXTY",
    " THOUSANDnEVENTY THOUSANDqEIGHTY THOUSANDpNINETY THOUSANDwMARRATANiALTERNATE NUMBER TWOcHREEfFOURdIVEeSIXcEV",
    "ENfEIGHTfNINEeTENdFOUR HUNDREDmSIX HUNDREDlTWO THOUSANDlEN THOUSANDzeFRACTION ONE HALFeSIXTH"]⟩,
  ⟨0x1EE00, ["aARABIC MATHEMATICAL ALEFeBEHdJEEMeDAL"]⟩,
  ⟨0x1EE05, [
    "aARABIC MATHEMATICAL WAWdZAINeHAHdTAHdYEHdKAFdLAMdMEEMeNOONeSEENeAINdFEHdSADdQAFdREHdSHEENfTEHcHEHeKHAHeTHAL",
    "eDADdZAHdGHAINfDOTLESS BEHdNOONeFEHdQAF"]⟩,
  ⟨0x1EE21, ["aARABIC MATHEMATICAL INITIAL BEHdJEEM"]⟩,
  ⟨0x1EE24, ["aARABIC MATHEMATICAL INITIAL HEH"]⟩,
  ⟨0x1EE27, ["aARABIC MATHEMATICAL INITIAL HAH"]⟩,
  ⟨0x1EE29, ["aARABIC MATHEMATICAL INITIAL YEHdKAFdLAMdMEEMeNOONeSEENeAINdFEHdSADdQAF"]⟩,
  ⟨0x1EE34, ["aARABIC MATHEMATICAL INITIAL SHEENfTEHcHEHeKHAH"]⟩,
  ⟨0x1EE39, ["aARABIC MATHEMATICAL INITIAL DAD"]⟩,
  ⟨0x1EE3B, ["aARABIC MATHEMATICAL INITIAL GHAIN"]⟩,
  ⟨0x1EE42, ["aARABIC MATHEMATICAL TAILED JEEM"]⟩,
  ⟨0x1EE47, ["aARABIC MATHEMATICAL TAILED HAH"]⟩,
  ⟨0x1EE49, ["aARABIC MATHEMATICAL TAILED YEH"]⟩,
  ⟨0x1EE4B, ["aARABIC MATHEMATICAL TAILED LAM"]⟩,
  ⟨0x1EE4D, ["aARABIC MATHEMATICAL TAILED NOONeSEENeAIN"]⟩,
  ⟨0x1EE51, ["aARABIC MATHEMATICAL TAILED SADdQAF"]⟩,
  ⟨0x1EE54, ["aARABIC MATHEMATICAL TAILED SHEEN"]⟩,
  ⟨0x1EE57, ["aARABIC MATHEMATICAL TAILED KHAH"]⟩,
  ⟨0x1EE59, ["aARABIC MATHEMATICAL TAILED DAD"]⟩,
  ⟨0x1EE5B, ["aARABIC MATHEMATICAL TAILED GHAIN"]⟩,
  ⟨0x1EE5D, ["aARABIC MATHEMATICAL TAILED DOTLESS NOON"]⟩,
  ⟨0x1EE5F, ["aARABIC MATHEMATICAL TAILED DOTLESS QAF"]⟩,
  ⟨0x1EE61, ["aARABIC MATHEMATICAL STRETCHED BEHdJEEM"]⟩,
  ⟨0x1EE64, ["aARABIC MATHEMATICAL STRETCHED HEH"]⟩,
  ⟨0x1EE67, ["aARABIC MATHEMATICAL STRETCHED HAHdTAHdYEHdKAF"]⟩,
  ⟨0x1EE6C, ["aARABIC MATHEMATICAL STRETCHED MEEMeNOONeSEENeAINdFEHdSADdQAF"]⟩,
  ⟨0x1EE74, ["aARABIC MATHEMATICAL STRETCHED SHEENfTEHcHEHeKHAH"]⟩,
  ⟨0x1EE79, ["aARABIC MATHEMATICAL STRETCHED DADdZAHdGHAINfDOTLESS BEH"]⟩,
  ⟨0x1EE7E, ["aARABIC MATHEMATICAL STRETCHED DOTLESS FEH"]⟩,
  ⟨0x1EE80, ["aARABIC MATHEMATICAL LOOPED ALEFeBEHdJEEMeDALdHEHdWAWdZAINeHAHdTAHdYEH"]⟩,
  ⟨0x1EE8B, [
    "aARABIC MATHEMATICAL LOOPED LAMdMEEMeNOONeSEENeAINdFEHdSADdQAFdREHdSHEENfTEHcHEHeKHAHeTHALeDADdZAHdGHAIN"]⟩,
  ⟨0x1EEA1, ["aARABIC MATHEMATICAL DOUBLE-STRUCK BEHdJEEMeDAL"]⟩,
  ⟨0x1EEA5, ["aARABIC MATHEMATICAL DOUBLE-STRUCK WAWdZAINeHAHdTAHdYEH"]⟩,
  ⟨0x1EEAB, [
    "aARABIC MATHEMATICAL DOUBLE-STRUCK LAMdMEEMeNOONeSEENeAINdFEHdSADdQAFdREHdSHEENfTEHcHEHeKHAHeTHALeDADdZAHdGH",
    "AIN"]⟩,
  ⟨0x1EEF0, ["aARABIC MATHEMATICAL OPERATOR MEEM WITH HAH WITH TATWEELzbHAH WITH DAL"]⟩,
  ⟨0x1F000, [
    "aMAHJONG TILE EAST WINDjSOUTH WINDkWEST WINDjNORTH WINDkRED DRAGONkGREEN DRAGONmWHITE DRAGONmONE OF CHARACTE",
    "RSrTWO OF CHARACTERSqHREE OF CHARACTERStFOUR OF CHARACTERSrIVE OF CHARACTERSsSIX OF CHARACTERSqEVEN OF CHARA",
    "CTERStEIGHT OF CHARACTERStNINE OF CHARACTERSsONE OF BAMBOOSoTWO OF BAMBOOSnHREE OF BAMBOOSqFOUR OF BAMBOOSoI",
    "VE OF BAMBOOSpSIX OF BAMBOOSnEVEN OF BAMBOOSqEIGHT OF BAMBOOSqNINE OF BAMBOOSpONE OF CIRCLESoTWO OF CIRCLESn",
    "HREE OF CIRCLESqFOUR OF CIRCLESoIVE OF CIRCLESpSIX OF CIRCLESnEVEN OF CIRCLESqEIGHT OF CIRCLESqNINE OF CIRCL",
    "ESpPLUMeORCHIDgBAMBOOgCHRYSANTHEMUMnSPRINGfUMMERgAUTUMNgWINTERgJOKERfBACK"]⟩,
  ⟨0x1F030, [
    "aDOMINO TILE HORIZONTAL BACKf-00-00b1b2b3b4b5b6e1-00b1b2b3b4b5b6e2-00b1b2b3b4b5b6e3-00b1b2b3b4b5b6e4-00b1b2b",
    "3b4b5b6e5-00b1b2b3b4b5b6e6-00b1b2b3b4b5b6qVERTICAL BACKf-00-00b1b2b3b4b5b6e1-00b1b2b3b4b5b6e2-00b1b2b3b4b5b6",
    "e3-00b1b2b3b4b5b6e4-00b1b2b3b4b5b6e5-00b1b2b3b4b5b6e6-00b1b2b3b4b5b6"]⟩,
  ⟨0x1F0A0, [
    "aPLAYING CARD BACKeACE OF SPADESnTWO OF SPADESmHREE OF SPADESpFOUR OF SPADESnIVE OF SPADESoSIX OF SPADESmEVE",
    "N OF SPADESpEIGHT OF SPADESpNINE OF SPADESoTEN OF SPADESnJACK OF SPADESoKNIGHT OF SPADESqQUEEN OF SPADESpKIN",
    "G OF SPADES"]⟩,
  ⟨0x1F0B1, [
    "aPLAYING CARD ACE OF HEARTSnTWO OF HEARTSmHREE OF HEARTSpFOUR OF HEARTSnIVE OF HEARTSoSIX OF HEARTSmEVEN OF ",
    "HEARTSpEIGHT OF HEARTSpNINE OF HEARTSoTEN OF HEARTSnJACK OF HEARTSoKNIGHT OF HEARTSqQUEEN OF HEARTSpKING OF ",
    "HEARTSoRED JOKER"]⟩,
  ⟨0x1F0C1, [
    "aPLAYING CARD ACE OF DIAMONDSpTWO OF DIAMONDSoHREE OF DIAMONDSrFOUR OF DIAMONDSpIVE OF DIAMONDSqSIX OF DIAMO",
    "NDSoEVEN OF DIAMONDSrEIGHT OF DIAMONDSrNINE OF DIAMONDSqTEN OF DIAMONDSpJACK OF DIAMONDSqKNIGHT OF DIAMONDSs",
    "QUEEN OF DIAMONDSrKING OF DIAMONDSqBLACK JOKER"]⟩,
  ⟨0x1F0D1, [
    "aPLAYING CARD ACE OF CLUBSmTWO OF CLUBSlHREE OF CLUBSoFOUR OF CLUBSmIVE OF CLUBSnSIX OF CLUBSlEVEN OF CLUBSo",
    "EIGHT OF CLUBSoNINE OF CLUBSnTEN OF CLUBSmJACK OF CLUBSnKNIGHT OF CLUBSpQUEEN OF CLUBSoKING OF CLUBSnWHITE J",
    "OKERlFOOLeTRUMP-1b2b3b4b5b6b7b8b9b10b1b2b3b4b5b6b7b8b9c20b1"]⟩,
  ⟨0x1F100, [
    "aDIGIT ZERO FULL STOPjCOMMAkONE COMMAjTWO COMMAiHREE COMMAlFOUR COMMAjIVE COMMAkSIX COMMAiEVEN COMMAlEIGHT C",
    "OMMAlNINE COMMAoNGBAT CIRCLED SANS-SERIF DIGIT ZEROzeNEGATIVE CIRCLED SANS-SERIF DIGIT ZEROzvCIRCLED ZERO WI",
    "TH SLASHpANTICLOCKWISE ARROWtDOLLAR SIGN WITH OVERLAID BACKSLASHzsPARENTHESIZED LATIN CAPITAL LETTER AbBbCbD",
    "bEbFbGbHbIbJbKbLbMbNbObPbQbRbSbTbUbVbWbXbYbZzlTORTOISE SHELL BRACKETED LATIN CAPITAL LETTER SzwCIRCLED ITALI",
    "C LATIN CAPITAL LETTER CbRzeCDcWZjOPYLEFT SYMBOLpSQUARED LATIN CAPITAL LETTER AbBbCbDbEbFbGbHbIbJbKbLbMbNbOb",
    "PbQbRbSbTbUbVbWbXbYbZwHVcMVcSDbScPPVdWCkNEGATIVE CIRCLED LATIN CAPITAL LETTER AbBbCbDbEbFbGbHbIbJbKbLbMbNbOb",
    "PbQbRbSbTbUbVbWbXbYbZzoRAISED MC SIGNgD SIGNgR SIGNoCIRCLED CCb WITH OVERLAID BACKSLASHzaHUMAN FIGUREuNEGATI",
    "VE SQUARED LATIN CAPITAL LETTER AbBbCbDbEbFbGbHbIbJbKbLbMbNbObPbQbRbSbTbUbVbWbXbYbZzoCROSSED NEGATIVE SQUARE",
    "D LATIN CAPITAL LETTER PzwNEGATIVE SQUARED ICcPAcSAcABcWCtSQUARE DJdD CLbOOLeFREEeIDcNEWcGcOKcSOSdUP WITH EX",
    "CLAMATION MARKyVScTHREE DhSECOND SCREENnTWO KfFOUR KgEIGHT KhFIVE POINT ONEoSEVEN POINT ONEpTWENTY-TWO POINT",
    " TWOuSIXTY PhONE HUNDRED TWENTY PuLATIN SMALL LETTER DuHCbDRcI-RESgLOSSLESSiSHVdUHDdVODlMASK WORK SYMBOL"]⟩,
  ⟨0x1F1E6, [
    "aREGIONAL INDICATOR SYMBOL LETTER AbBbCbDbEbFbGbHbIbJbKbLbMbNbObPbQbRbSbTbUbVbWbXbYbZzjSQUARE HIRAGANA HOKAo",
    "D KATAKANA KOKOeSA"]⟩,
  ⟨0x1F210, [
    "aSQUARED CJK UNIFIED IDEOGRAPH-624Be5B57d3CCzbKATAKANA DElCJK UNIFIED IDEOGRAPH-4E8Ce591Ae89E3e5929e4EA4e662",
    "0e7121e6599e524DdF8Cd18De65B0e521De7D42d51Fe8CA9e58F0d439e6F14d295d355e4E00b9e904Ae5DE6e4E2De53F3e6307e8D70e",
    "6253e7981dA7Ae5408e6E80d709b8e7533e5272d5B6e914D"]⟩,
  ⟨0x1F240, ["aTORTOISE SHELL BRACKETED CJK UNIFIED IDEOGRAPH-672Ce4E09c8Ce5B89e70B9e6253e76D7e52DDe6557"]⟩,
  ⟨0x1F250, ["aCIRCLED IDEOGRAPH ADVANTAGEiCCEPT"]⟩,
  ⟨0x1F260, ["aROUNDED SYMBOL FOR FUcLUcSHOUeXIcSHUANGXIiCAI"]⟩,
  ⟨0x1F300, [
    "aCYCLONEhFOGGYfCLOSED UMBRELLApNIGHT WITH STARSqSUNRISE OVER MOUNTAINSqEhCITYSCAPE AT DUSKrSUNSET OVER BUILD",
    "INGSvRAINBOWhBRIDGE AT NIGHTpWATER WAVEkVOLCANOhMILKY WAYjEARTH GLOBE EUROPE-AFRICAnAMERICAShSIA-AUSTRALIAzb",
    "GLOBE WITH MERIDIANSuNEW MOON SYMBOLpWAXING CRESCENT MOON SYMBOLzcFIRST QUARTER MOON SYMBOLzaWAXING GIBBOUS ",
    "MOON SYMBOLzbFULL MOON SYMBOLqWANING GIBBOUS MOON SYMBOLzbLAST QUARTER MOON SYMBOLyWANING CRESCENT MOON SYMB",
    "OLzcCRESCENT MOONnNEW MOON WITH FACEsFIRST QUARTER MOON WITH FACEzdLAST QUARTER MOON WITH FACEzcFULL MOON WI",
    "TH FACEtSUN WITH FACEnGLOWING STARmSHOOTING STARnTHERMOMETERlBLACK DROPLETnWHITE SUNa WITH SMALL CLOUDqBEHIN",
    "D CLOUDa WITH RAINzhCLOUD WITH RAINeSNOWeLIGHTNINGjTORNADOsFOGdWIND BLOWING FACErHOT DOGhTACOeBURRITOhCHESTN",
    "UTiSEEDLINGiEVERGREEN TREEoDECIDUOUS TREEoPALM TREEjCACTUSgHOT PEPPERkTULIPfCHERRY BLOSSOMoROSEeHIBISCUSiSUN",
    "FLOWERjBLOSSOMhEAR OF MAIZEfRICElHERBeFOUR LEAF CLOVERqMAPLE LEAFkFALLEN LEAFlLEAF FLUTTERING IN WINDxMUSHRO",
    "OMiTOMATOgAUBERGINEjGRAPESgMELONfWATERMELONkTANGERINEjLEMONfBANANAgPINEAPPLEjRED APPLEjGREEN APPLElPEARbCHfC",
    "HERRIESiSTRAWBERRYkHAMBURGERjSLICE OF PIZZAoMEAT ON BONEmPOULTRY LEGlRICE CRACKERhBALLjCOOKED RICEkURRY AND ",
    "RICEoSTEAMING BOWLmPAGHETTIjBREADfFRENCH FRIESmROASTED SWEET POTATOuDANGOfODENeSUSHIfFRIED SHRIMPlISH CAKE W",
    "ITH SWIRL DESIGNzcSOFT ICE CREAMnHAVED ICEkICE CREAMjDOUGHNUTiCOOKIEfHOCOLATE BARmANDYfLOLLIPOPiCUSTARDhHONE",
    "Y POTjSHORTCAKEjBENTO BOXjPOT OF FOODlCOOKINGhFORK AND KNIFEoTEACUP WITHOUT HANDLEvSAKE BOTTLE AND CUPtWINE ",
    "GLASSkCOCKTAIL GLASSoTROPICAL DRINKoBEER MUGiCLINKING BEER MUGSsBABY BOTTLElFORK AND KNIFE WITH PLATEzaBOTTL",
    "E WITH POPPING CORKyPOPCORNhRIBBONgWRAPPED PRESENTpBIRTHDAY CAKEnJACK-O-LANTERNoCHRISTMAS TREEoFATHER CHRIST",
    "MASpIREWORKSb SPARKLERrBALLOONhPARTY POPPERmCONFETTI BALLnTANABATA TREEnCROSSED FLAGSnPINE DECORATIONpJAPANE",
    "SE DOLLSoCARP STREAMERnWIND CHIMEkMOON VIEWING CEREMONYvSCHOOL SATCHELoGRADUATION CAPoHEART WITH TIP ON THE ",
    "LEFTzbBOUQUET OF FLOWERSsMILITARY MEDALoREMINDER RIBBONpMUSICAL KEYBOARD WITH JACKSzcSTUDIO MICROPHONErLEVEL",
    " SLIDERmCONTROL KNOBSnBEAMED ASCENDING MUSICAL NOTESxDESCENDING MUSICAL NOTESzgFILM FRAMESlADMISSION TICKETS",
    "rCAROUSEL HORSEoFERRIS WHEELmROLLER COASTERoFISHING POLE AND FISHvMICROPHONEjOVIE CAMERAmCINEMAgHEADPHONEjAR",
    "TIST PALETTEoTOP HAThCIRCUS TENTlTICKETgCLAPPER BOARDnPERFORMING ARTSpVIDEO GAMEkDIRECT HITkSLOT MACHINEmBIL",
    "LIARDSjGAME DIEiBOWLINGhFLOWER PLAYING CARDSuMUSICAL NOTEkLTIPLE MUSICAL NOTESwSAXOPHONEjGUITARgMUSICAL KEYB",
    "OARDqTRUMPEThVIOLINgMUSICAL SCOREnRUNNING SHIRT WITH SASHxTENNIS RACQUET AND BALLxSKI AND SKI BOOTqBASKETBAL",
    "L AND HOOPtCHEQUERED FLAGoSNOWBOARDERlRUNNERgSURFERfPORTS MEDALmTROPHYgHORSE RACINGmAMERICAN FOOTBALLrRUGBY ",
    "FOOTBALLoSWIMMERhWEIGHT LIFTERnGOLFERgRACING MOTORCYCLEkCARkCRICKET BAT AND BALLuVOLLEYBALLkFIELD HOCKEY STI",
    "CK AND BALLzcICE HOCKEY STICK AND PUCKzaTABLE TENNIS PADDLE AND BALLzdSNOW CAPPED MOUNTAINuCAMPINGhBEACH WIT",
    "H UMBRELLAsUILDING CONSTRUCTIONvHOUSE BUILDINGSpCITYSCAPEjDERELICT HOUSE BUILDINGxCLASSICAL BUILDINGsDESERTa",
    " ISLANDnNATIONAL PARKnSTADIUMhHOUSE BUILDINGiWITH GARDENrOFFICE BUILDINGpJAPANESE POST OFFICEuEUROPEAN POST ",
    "OFFICEuHOSPITALiBANKeAUTOMATED TELLER MACHINEyHOTELfLOVE HOTELkCONVENIENCE STORErSCHOOLgDEPARTMENT STOREqFAC",
    "TORYhIZAKAYA LANTERNpJAPANESE CASTLEpEUROPEAN CASTLEpWHITE PENNANTnBLACK PENNANTnWAVING WHITE FLAGkBLACK FLA",
    "GrROSETTEhBLACK ROSETTEnLABELfBADMINTON RACQUET AND SHUTTLECOCKzhOW AND ARROWnAMPHORAhEMOJI MODIFIER FITZPAT",
    "RICK TYPE-1-2d3b4b5b6ziRATdMOUSEfOXcWATER BUFFALOnCOWdTIGERfLEOPARDhRABBITgCATdDRAGONgCROCODILEjWHALEfSNAILc",
    "KEfHORSEfRAMdGOATeSHEEPfMONKEYgROOSTERhCHICKENhDOGdPIGdBOAReELEPHANTiOCTOPUShSPIRAL SHELLmBUGdANTdHONEYBEEiL",
    "ADY BEETLElFISHeTROPICAL FISHnBLOWFISHiTURTLEgHATCHING CHICKoBABY CHICKkFRONT-FACING BABY CHICKxBIRDePENGUIN",
    "hKOALAfPOODLEgDROMEDARY CAMELpBACTRIAN CAMELoDOLPHINhMOUSE FACEkCOW FACEiTIGER FACEkRABBIT FACElCAT FACEiDRA",
    "GON FACElSPOUTING WHALEoHORSE FACEkMONKEY FACElDOG FACEiPIG FACEiFROG FACEjHAMSTER FACEmWOLF FACEjBEAR FACEj",
    "PANDA FACEjIG NOSEhAW PRINTSkCHIPMUNKiEYEScEcARdNOSEeMOUTHfTONGUEgWHITE UP POINTING BACKHAND INDEXzbDOWN POI",
    "NTING BACKHAND INDEXzdLEFT POINTING BACKHAND INDEXzdRIGHT POINTING BACKHAND INDEXzkFISTED HAND SIGNqWAVING H",
    "AND SIGNqOK HAND SIGNmTHUMBS UP SIGNhDOWN SIGNqCLAPPING HANDS SIGNtOPEN HANDS SIGNpCROWNfWOMANS HATkEYEGLASS",
    "ESkNECKTIEhT-SHIRThJEANSfDRESSfKIMONOgBIKINIgWOMANS CLOTHESoPURSEfHANDBAGhPOUCHfMANS SHOEjATHLETIC SHOEnHIGH",
    "-HEELED SHOEqWOMANS SANDALgBOOTSmFOOTPRINTSkBUST IN SILHOUETTEoS IN SILHOUETTEsOYdGIRLeMANdWOMANfFAMILYgMAN ",
    "AND WOMAN HOLDING HANDSzcTWO MEN HOLDING HANDSrWOMEN HOLDING HANDSxPOLICE OFFICERoWOMAN WITH BUNNY EARSvBRID",
    "E WITH VEILpPERSON WITH BLOND HAIRwMAN WITH GUA PI MAOkTURBANpOLDER MANdWOMANlBABYeCONSTRUCTION WORKERtPRINC",
    "ESSiJAPANESE OGREeGOBLINpGHOSTfBABY ANGELkEXTRATERRESTRIAL ALIENwALIEN MONSTERnIMPdSKULLfINFORMATION DESK PE",
    "RSONxGUARDSMANjDANCERgLIPSTICKiNAIL POLISHlFACE MASSAGEmHAIRCUThBARBER POLElSYRINGEhPILLeKISS MARKjLOVE LETT",
    "ERlRINGeGEM STONEjKISSeBOUQUEThCOUPLE WITH HEARTrWEDDINGhBEATING HEARTmROKEN HEARTmTWO HEARTSkSPARKLING HEAR",
    "TpGROWING HEARTnHEART WITH ARROWqBLUE HEARTkGREEN HEARTlYELLOW HEARTmPURPLE HEARTmHEART WITH RIBBONrREVOLVIN",
    "G HEARTSqHEART DECORATIONqDIAMOND SHAPE WITH A DOT INSIDEzgELECTRIC LIGHT BULBtANGER SYMBOLmBOMBeSLEEPING SY",
    "MBOLpCOLLISION SYMBOLqSPLASHING SWEAT SYMBOLwDROPLETgASH SYMBOLlPILE OF POOlFLEXED BICEPSnDIZZY SYMBOLmSPEEC",
    "H BALLOONoTHOUGHT BALLOONpWHITE FLOWERmHUNDRED POINTS SYMBOLvMONEY BAGjCURRENCY EXCHANGErHEAVY DOLLAR SIGNrC",
    "REDIT CARDlBANKNOTE WITH YEN SIGNiDOLLAR SIGNlEURO SIGNjPOUND SIGNyMONEY WITH WINGSqCHART WITH UPWARDS TREND",
    " AND YEN SIGNzmSEATePERSONAL COMPUTERrBRIEFCASEjMINIDISCiFLOPPY DISKlOPTICAL DISCmDVDdFILE FOLDERlOPEN FILE ",
    "FOLDERqPAGE WITH CURLjFACING UPoCALENDARiTEAR-OFF CALENDARrCARD INDEXjHART WITH UPWARDS TRENDnDOWNWARDS TREN",
    "DzbBAR CHARTjCLIPBOARDjPUSHPINhROUND PUSHPINnPAPERCLIPjSTRAIGHT RULERoTRIANGULAR RULERqBOOKMARK TABSnLEDGERg",
    "NOTEBOOKa WITH DECORATIVE COVERzfCLOSED BOOKlOPEN BOOKjGREEN BOOKkBLUE BOOKjORANGE BOOKlBOOKSfNAME BADGEkSCR",
    "OLLgMEMOeTELEPHONE RECEIVERsPAGERfFAX MACHINElSATELLITE ANTENNArPUBLIC ADDRESS LOUDSPEAKERzbCHEERING MEGAPHO",
    "NEsOUTBOX TRAYlINBOX TRAYkPACKAGEhE-MAIL SYMBOLnINCOMING ENVELOPErENVELOPE WITH DOWNWARDS ARROW ABOVEzkCLOSE",
    "D MAILBOX WITH LOWERED FLAGmRAISED FLAGzgOPEN MAILBOX WITH RAISED FLAGlLOWERED FLAGzfPOSTBOXdAL HORNlNEWSPAP",
    "ERjMOBILE PHONEa WITH RIGHTWARDS ARROW AT LEFTzrVIBRATION MODEoMOBILE PHONE OFFqNO MOBILE PHONESqANTENNA WIT",
    "H BARSrCAMERAa WITH FLASHrVIDEO CAMERAmTELEVISIONkRADIOfVIDEOCASSETTEnFILM PROJECTORoPORTABLE STEREOoRAYER B",
    "EADSmTWISTED RIGHTWARDS ARROWSzaCLOCKWISE RIGHTWARDS AND LEFTWARDS OPEN CIRCLE ARROWSa WITH CIRCLED ONE OVER",
    "LAYzzsDOWNWARDS AND UPWARDS OPEN CIRCLE ARROWSzzaANTICLOCKWISE DOWNWARDS AND UPWARDS OPEN CIRCLE ARROWSzzeLO",
    "W BRIGHTNESS SYMBOLvHIGH BRIGHTNESS SYMBOLwSPEAKER WITH CANCELLATION STROKEzbRa WITH ONE SOUND WAVEoTHREE SO",
    "UND WAVESzfBATTERYhELECTRIC PLUGnLEFT-POINTING MAGNIFYING GLASSzfRIGHT-POINTING MAGNIFYING GLASSzgLOCK WITH ",
    "INK PENrCLOSED LOCK WITH KEYuKEYdLOCKeOPEN LOCKjBELLa WITH CANCELLATION STROKEzdOOKMARKiLINK SYMBOLlRADIO BU",
    "TTONmBACK WITH LEFTWARDS ARROW ABOVEzgEND WITH LEFTWARDS ARROW ABOVEzfON WITH EXCLAMATION MARK WITH LEFT RIG",
    "HT ARROW ABOVEzzcSOON WITH RIGHTWARDS ARROW ABOVEzhTOP WITH UPWARDS ARROW ABOVEzdNO ONE UNDER EIGHTEEN SYMBO",
    "LzdKEYCAP TENkINPUT SYMBOL FOR LATIN CAPITAL LETTERSpSMALL LETTERStNUMBERShSYMBOLShLATIN LETTERSzfFIREeELECT",
    "RIC TORCHoWRENCHgHAMMERgNUT AND BOLTmHOCHOfPISTOLgMICROSCOPEkTELESCOPEjCRYSTAL BALLmSIX POINTED STAR WITH MI",
    "DDLE DOTzhJAPANESE SYMBOL FOR BEGINNERzdTRIDENT EMBLEMoBLACK SQUARE BUTTONtWHITE SQUARE BUTTONtLARGE RED CIR",
    "CLEkBLUE CIRCLElORANGE DIAMONDoBLUE DIAMONDsSMALL ORANGE DIAMONDoBLUE DIAMONDsUP-POINTING RED TRIANGLEyDOWN-",
    "POINTING RED TRIANGLEzbUP-POINTING SMALL RED TRIANGLEzfDOWN-POINTING SMALL RED TRIANGLEzhLOWER RIGHT SHADOWE",
    "D WHITE CIRCLEziUPPER RIGHT SHADOWED WHITE CIRCLEziCIRCLED CROSS POMMEEtROSS POMMEE WITH HALF-CIRCLE BELOWyE",
    "mNOTCHED LEFT SEMICIRCLE WITH THREE DOTSzgRIGHT SEMICIRCLE WITH THREE DOTSzpSYMBOL FOR MARKS CHAPTERyWHITE L",
    "ATIN CROSSrHEAVY LATIN CROSSrCELTIC CROSSmOM SYMBOLjDOVE OF PEACEnKAABAfMOSQUEgSYNAGOGUEjMENORAH WITH NINE B",
    "RANCHESzbBOWL OF HYGIEIApCLOCK FACE ONE OCLOCKkTWO OCLOCKjHREE OCLOCKmFOUR OCLOCKkIVE OCLOCKlSIX OCLOCKjEVEN",
    " OCLOCKmEIGHT OCLOCKmNINE OCLOCKlTEN OCLOCKkELEVEN OCLOCKnTWELVE OCLOCKnONE-THIRTYkTWO-THIRTYjHREE-THIRTYmFO",
    "UR-THIRTYkIVE-THIRTYlSIX-THIRTYjEVEN-THIRTYmEIGHT-THIRTYmNINE-THIRTYlTEN-THIRTYkELEVEN-THIRTYnTWELVE-THIRTYy",
    "RIGHT SPEAKERa WITH ONE SOUND WAVEoTHREE SOUND WAVESzlBULLHORNa WITH SOUND WAVESzaRINGING BELLmBOOKeCANDLEgM",
    "ANTELPIECE CLOCKrBLACK SKULL AND CROSSBONESzbNO PIRACYjHOLEeMAN IN BUSINESS SUIT LEVITATINGzgSLEUTH OR SPYnD",
    "ARK SUNGLASSESpSPIDERa WEBkJOYSTICKiMAN DANCINGlLEFT HAND TELEPHONE RECEIVERzdTELEPHONE RECEIVER WITH PAGEzd",
    "RIGHT HAND TELEPHONE RECEIVERzeWHITE TOUCHTONE TELEPHONEzaBLACK TOUCHTONE TELEPHONEzaTELEPHONE ON TOP OF MOD",
    "EMzaCLAMSHELL MOBILE PHONEwBACK OF ENVELOPEqSTAMPED ENVELOPEqENVELOPE WITH LIGHTNINGxFLYING ENVELOPEpPEN OVE",
    "R STAMPED ENVELOPEzaLINKED PAPERCLIPSrBLACK PUSHPINnLOWER LEFT PENCILgBALLPOINT PENnFOUNTAIN PENmPAINTBRUSHk",
    "CRAYONqEFT WRITING HANDrTURNED OK HAND SIGNtRAISED HAND WITH FINGERS SPLAYEDzgEVERSED RAISED HAND WITH FINGE",
    "RS SPLAYEDzhTHUMBS UP SIGNhDOWN SIGNqVICTORY HANDmHAND WITH MIDDLE FINGER EXTENDEDzpAISED HAND WITH PART BET",
    "WEEN MIDDLE AND RING FINGERSzzdWHITE DOWN POINTING LEFT HAND INDEXzkSIDEWAYS WHITE LEFT POINTING INDEXtRIGHT",
    " POINTING INDEXzbBLACK LEFT POINTING INDEXtRIGHT POINTING INDEXzkBLACK LEFT POINTING BACKHAND INDEXzdRIGHT P",
    "OINTING BACKHAND INDEXzkSIDEWAYS WHITE UP POINTING INDEXrDOWN POINTING INDEXzaBLACK UP POINTING INDEXrDOWN P",
    "OINTING INDEXzjBLACK UP POINTING BACKHAND INDEXzbDOWN POINTING BACKHAND INDEXzdHEARTlDESKTOP COMPUTERqKEYBOA",
    "RD AND MOUSEsTHREE NETWORKED COMPUTERSzaPRINTERgOCKET CALCULATORrBLACK HARD SHELL FLOPPY DISKzdWHITE HARD SH",
    "ELL FLOPPY DISKzdSOFT SHELL FLOPPY DISKwTAPE CARTRIDGEoWIRED KEYBOARDoONE BUTTON MOUSEqTWO BUTTON MOUSEpHREE",
    " BUTTON MOUSErRACKBALLjOLD PERSONAL COMPUTERvHARD DISKjSCREENgPRINTER ICONmFAX ICONiOPTICAL DISC ICONrDOCUME",
    "NT WITH TEXTa AND PICTUREqPICTUREvFRAME WITH PICTUREhTILESfAN XpBLACK FOLDERmFOLDERgOPEN FOLDERlCARD INDEX D",
    "IVIDERSoFILE BOXnFILE CABINETmEMPTY NOTEa PAGEcDoNOTEa PAGEcDiEMPTY DOCUMENTiPAGEaSlDOCUMENTiPAGEaSfWASTEBAS",
    "KETlSPIRAL NOTE PADiCALENDAR PADtDESKTOP WINDOWoMINIMIZEhAXIMIZEiOVERLAPhCLOCKWISE RIGHT AND LEFT SEMICIRCLE",
    " ARROWSzqANCELLATION XoINCREASE FONT SIZE SYMBOLzaDECREASE FONT SIZE SYMBOLzaCOMPRESSIONlOLD KEYhROLLED-UP N",
    "EWSPAPERtPAGE WITH CIRCLED TEXTwSTOCK CHARTlDAGGER KNIFEmLIPSeSPEAKING HEAD IN SILHOUETTEzcTHREE RAYS ABOVEf",
    "BELOWfLEFTeRIGHTqLEFT SPEECH BUBBLEsRIGHT SPEECH BUBBLEtTWO SPEECH BUBBLESrHREE SPEECH BUBBLESuLEFT THOUGHT ",
    "BUBBLEtRIGHT THOUGHT BUBBLEuLEFT ANGER BUBBLErRIGHT ANGER BUBBLEsMOOD BUBBLElLIGHTNING MOOD BUBBLEiDoBALLOT ",
    "BOX WITH BALLOTpSCRIPT XiBOX WITH SCRIPT XpLD SCRIPT XlX WITH BOLD SCRIPT XzeLIGHT CHECK MARKqBALLOT BOX WIT",
    "H BOLD CHECKzbWORLD MAPjMOUNT FUJIkTOKYO TOWERlSTATUE OF LIBERTYqILHOUETTE OF JAPANtMOYAIfGRINNING FACEa WIT",
    "H SMILING EYESzgFACE WITH TEARS OF JOYwSMILING FACE WITH OPEN MOUTHa AND SMILING EYESmCOLD SWEATkTIGHTLY-CLO",
    "SED EYESzjHALOdORNSxWINKING FACEmSMILING FACE WITH SMILING EYESzfFACE SAVOURING DELICIOUS FOODzeRELIEVED FAC",
    "EnSMILING FACE WITH HEART-SHAPED EYESrSUNGLASSESzaRKING FACEnNEUTRAL FACEmEXPRESSIONLESS FACEtUNAMUSED FACEn",
    "FACE WITH COLD SWEATuPENSIVE FACEmCONFUSED FACEjOUNDED FACEpKISSING FACEmFACE THROWING A KISSuKISSING FACE W",
    "ITH SMILING EYESmCLOSED EYESzeFACE WITH STUCK-OUT TONGUEa AND WINKING EYElTIGHTLY-CLOSED EYESzzaDISAPPOINTED",
    " FACErWORRIED FACEmANGRY FACEkPOUTING FACEmCRYING FACElPERSEVERING FACEqFACE WITH LOOK OF TRIUMPHzaDISAPPOIN",
    "TED BUT RELIEVED FACEzfFROWNING FACE WITH OPEN MOUTHzeANGUISHED FACEoFEARFUL FACEmWEARY FACEkSLEEPY FACElTIR",
    "ED FACEkGRIMACING FACEoLOUDLY CRYING FACEsFACE WITH OPEN MOUTHuHUSHED FACElFACE WITH OPEN MOUTH AND COLD SWE",
    "ATzfSCREAMING IN FEARwASTONISHED FACEpFLUSHED FACEmSLEEPING FACEnDIZZY FACEkFACE WITHOUT MOUTHj MEDICAL MASK",
    "wGRINNING CAT FACE WITH SMILING EYESzkCAT FACE WITH TEARS OF JOYzbSMILING CAT FACE WITH OPEN MOUTHkHEART-SHA",
    "PED EYESzoCAT FACE WITH WRY SMILExKISSING CAT FACE WITH CLOSED EYESziPOUTING CAT FACEqCRYING CAT FACEpWEARY ",
    "CAT FACEoSLIGHTLY FROWNING FACEnSMILING FACEvUPSIDE-DOWN FACEqFACE WITH ROLLING EYESmNO GOOD GESTUREpOK GEST",
    "UREuPERSON BOWING DEEPLYuSEE-NO-EVIL MONKEYsHEAR-NO-EVIL MONKEYtSPEAK-NO-EVIL MONKEYuHAPPY PERSON RAISING ON",
    "E HANDzePERSON RAISING BOTH HANDS IN CELEBRATIONziFROWNINGiWITH POUTING FACEmFOLDED HANDSyNORTH WEST POINTIN",
    "G LEAFySOUTH WEST POINTING LEAFyNORTH EAST POINTING LEAFySOUTH EAST POINTING LEAFyTURNED NORTH WEST POINTING",
    " LEAFySOUTH WEST POINTING LEAFyNORTH EAST POINTING LEAFySOUTH EAST POINTING LEAFzgNORTH WEST POINTING VINE L",
    "EAFzeSOUTH WEST POINTING VINE LEAFzeNORTH EAST POINTING VINE LEAFzeSOUTH EAST POINTING VINE LEAFzeHEAVY NORT",
    "H WEST POINTING VINE LEAFzeSOUTH WEST POINTING VINE LEAFzeNORTH EAST POINTING VINE LEAFzeSOUTH EAST POINTING",
    " VINE LEAFzkNORTH WEST POINTING BUDxSOUTH WEST POINTING BUDxNORTH EAST POINTING BUDxSOUTH EAST POINTING BUDx",
    "HEAVY NORTH WEST POINTING BUDxSOUTH WEST POINTING BUDxNORTH EAST POINTING BUDxSOUTH EAST POINTING BUDzdOLLOW",
    " QUILT SQUARE ORNAMENTa IN BLACK SQUAREztSOLID QUILT SQUARE ORNAMENTa IN BLACK SQUAREzsLEFTWARDS ROCKETqUPWA",
    "RDS ROCKEToRIGHTWARDS ROCKETrDOWNWARDS ROCKETqSCRIPT LIGATURE ET ORNAMENTzcHEAVY SCRIPT LIGATURE ET ORNAMENT",
    "ziLIGATURE OPEN ET ORNAMENTzaHEAVY LIGATURE OPEN ET ORNAMENTzaAMPERSAND ORNAMENTySWASH AMPERSAND ORNAMENTxAN",
    "S-SERIF HEAVY DOUBLE TURNED COMMA QUOTATION MARK ORNAMENTzlCOMMA QUOTATION MARK ORNAMENTzlLOW DOUBLE COMMA Q",
    "UOTATION MARK ORNAMENTzzhHEAVY INTERROBANG ORNAMENTzbSANS-SERIF INTERROBANG ORNAMENTzgHEAVY SANS-SERIF INTER",
    "ROBANG ORNAMENTzmVERY HEAVY SOLIDUShREVERSE SOLIDUSzbCHECKER BOARDnREVERSE CHECKER BOARDuOCKETgHELICOPTERkST",
    "EAM LOCOMOTIVEqRAILWAY CARlHIGH-SPEED TRAINa WITH BULLET NOSEziTRAINfMETROfLIGHT RAILkSTATIONhTRAMa CARiBUSd",
    "ONCOMING BUSmTROLLEYBUSkBUS STOPiMINIBUShAMBULANCEjFIRE ENGINElPOLICE CARkONCOMING POLICE CARtTAXIeONCOMING ",
    "TAXInAUTOMOBILEkONCOMING AUTOMOBILEtRECREATIONAL VEHICLEuDELIVERY TRUCKoARTICULATED LORRYrTRACTORhMONORAILgU",
    "NTAIN RAILWAYqSUSPENSION RAILWAYsMOUNTAIN CABLEWAYrAERIAL TRAMWAYoSHIPeROWBOAThSPEEDBOATjHORIZONTAL TRAFFIC ",
    "LIGHTyVERTICAL TRAFFIC LIGHTwCONSTRUCTION SIGNrPOLICE CARS REVOLVING LIGHTzcTRIANGULAR FLAG ON POSTxDOOReNO ",
    "ENTRY SIGNnSMOKING SYMBOLoNO SMOKING SYMBOLrPUT LITTER IN ITS PLACE SYMBOLzfDO NOT LITTER SYMBOLuPOTABLE WAT",
    "ER SYMBOLuNON-POTABLE WATER SYMBOLyBICYCLEhNO BICYCLESlBICYCLISTjMOUNTAIN BICYCLISTsPEDESTRIANkNO PEDESTRIAN",
    "SoCHILDREN CROSSINGrMENS SYMBOLlWOMENS SYMBOLnRESTROOMiBABY SYMBOLlTOILETgWATER CLOSETmSHOWERgBATHaTUBhPASSP",
    "ORT CONTROLqCUSTOMShBAGGAGE CLAIMnLEFT LUGGAGEmTRIANGLE WITH ROUNDED CORNERSzePROHIBITED SIGNpCIRCLED INFORM",
    "ATION SOURCEzbBOYS SYMBOLlGIRLS SYMBOLmCOUCH AND LAMPoSLEEPING ACCOMMODATIONvHOPPING BAGSnBELLHOP BELLkDdPLA",
    "CE OF WORSHIPqOCTAGONAL SIGNoSHOPPING TROLLEYpTUPAfPAGODAgHINDU TEMPLElUTdELEVATOR"]⟩,
  ⟨0x1F6DD, [
    "aPLAYGROUND SLIDEqWHEELfRING BUOYjHAMMER AND WRENCHrSHIELDgOIL DRUMiMOTORWAYiRAILWAY TRACKnMOTOR BOATkUP-POI",
    "NTING MILITARY AIRPLANErAIRPLANEiSMALL AIRPLANEzbSMALL AIRPLANEoNORTHEAST-POINTING AIRPLANEzcAIRPLANE DEPART",
    "UREjARRIVING"]⟩,
  ⟨0x1F6F0, [
    "aSATELLITEjONCOMING FIRE ENGINEuDIESEL LOCOMOTIVErPASSENGER SHIPoSCOOTERhMOTOR SCOOTERnCANOEfSLEDeFLYING SAU",
    "CERnSKATEBOARDkAUTO RICKSHAWnPICKUP TRUCKmROLLER SKATE"]⟩,
  ⟨0x1F700, [
    "aALCHEMICAL SYMBOL FOR QUINTESSENCEmAIRdFIREeEARTHfWATERfAQUAFORTISg REGIAa-2hVITAEa-2mVINEGARa-2b3jSULFURgP",
    "HILOSOPHERS SULFURtBLACK SULFURmMERCURY SUBLIMATEa-2b3tCINNABARiSALTeNITREfVITRIOLa-2jROCK SALTa-2lGOLDeSILV",
    "ERgIRON OREa-2kCROCUS OF IRONoREGULUS OF IRONpCOPPER OREkIRON-COPPER OREpSUBLIMATE OF COPPERtCROCUS OF COPPE",
    "Ra-2rOPPER ANTIMONIATEsSALT OF COPPER ANTIMONIATEzaUBLIMATE OF SALT OF COPPERzcVERDIGRISjTIN OREhLEAD OREiAN",
    "TIMONY OREmSUBLIMATE OF ANTIMONYuALT OF ANTIMONYpUBLIMATE OF SALT OF ANTIMONYzeVINEGAR OF ANTIMONYtREGULUS O",
    "F ANTIMONYa-2pSa-2b3b4jALKALIa-2iMARCASITEjSAL-AMMONIACmARSENIChREALGARa-2jAURIPIGMENTlBISMUTH ORElTARTARa-2",
    "iQUICK LIMEkBORAXa-2b3hALUMeOILdSPIRITgTINCTUREiGUMdWAXdPOWDERgCALXeTUTTYfCAPUT MORTUUMnSCEPTER OF JOVEpCADU",
    "CEUSiTRIDENThSTARRED TRIDENTpLODESTONEjSOAPeURINEfHORSE DUNGkASHESfPOT ASHESjBRICKfPOWDERED BRICKoAMALGAMhST",
    "RATUM SUPER STRATUMa-2wUBLIMATIONlPRECIPITATElDISTILLeSOLVEa-2kPURIFYeTREFACTIONmCRUCIBLEa-2b3b4b5kALEMBIChB",
    "ATH OF MARYeVAPOURSpRETORTgHOUReNIGHTfDAY-NIGHTjMONTHfHALF DRAMeOUNCE"]⟩,
  ⟨0x1F780, [
    "aBLACK LEFT-POINTING ISOSCELES RIGHT TRIANGLEznUP-POINTING ISOSCELES RIGHT TRIANGLEzlRIGHT-POINTING ISOSCELE",
    "S RIGHT TRIANGLEzoDOWN-POINTING ISOSCELES RIGHT TRIANGLEznSLIGHTLY SMALL CIRCLEzcMEDIUM BOLD WHITE CIRCLEyBO",
    "LD WHITE CIRCLErHEAVY WHITE CIRCLEsVERY HEAVY WHITE CIRCLExEXTREMELY HEAVY WHITE CIRCLEzdWHITE CIRCLE CONTAI",
    "NING BLACK SMALL CIRCLEzrROUND TARGETmBLACK TINY SQUARElSLIGHTLY SMALL SQUAREzcLIGHT WHITE SQUAREsMEDIUM WHI",
    "TE SQUAREtBOLD WHITE SQUARErHEAVY WHITE SQUAREsVERY HEAVY WHITE SQUARExEXTREMELY HEAVY WHITE SQUAREzdWHITE S",
    "QUARE CONTAINING BLACK VERY SMALL SQUARErMEDIUM SQUAREzsSQUARE TARGETnBLACK TINY DIAMONDmVERY SMALL DIAMONDs",
    "MEDIUM SMALL DIAMONDzbWHITE DIAMOND CONTAINING BLACK VERY SMALL DIAMONDsMEDIUM DIAMONDzuDIAMOND TARGEToBLACK",
    " TINY LOZENGEmVERY SMALL LOZENGEsMEDIUM SMALL LOZENGEzbWHITE LOZENGE CONTAINING BLACK SMALL LOZENGEztTHIN GR",
    "EEK CROSSqLIGHT GREEK CROSSrMEDIUM GREEK CROSSsBOLD GREEK CROSSqVERY BOLD GREEK CROSSqHEAVY GREEK CROSSwEXTR",
    "EMELY HEAVY GREEK CROSSzcTHIN SALTIREmLIGHT SALTIREnMEDIUM SALTIREoBOLD SALTIREmHEAVY SALTIREnVERY HEAVY SAL",
    "TIREsEXTREMELY HEAVY SALTIRExLIGHT FIVE SPOKED ASTERISKzbMEDIUM FIVE SPOKED ASTERISKzcBOLD FIVE SPOKED ASTER",
    "ISKzaHEAVY FIVE SPOKED ASTERISKzbVERY HEAVY FIVE SPOKED ASTERISKzgEXTREMELY HEAVY FIVE SPOKED ASTERISKzlLIGH",
    "T SIX SPOKED ASTERISKzaMEDIUM SIX SPOKED ASTERISKzbBOLD SIX SPOKED ASTERISKyHEAVY SIX SPOKED ASTERISKzaVERY ",
    "HEAVY SIX SPOKED ASTERISKzfEXTREMELY HEAVY SIX SPOKED ASTERISKzkLIGHT EIGHT SPOKED ASTERISKzcMEDIUM EIGHT SP",
    "OKED ASTERISKzdBOLD EIGHT SPOKED ASTERISKzbHEAVY EIGHT SPOKED ASTERISKzcVERY HEAVY EIGHT SPOKED ASTERISKzhLI",
    "GHT THREE POINTED BLACK STARzfMEDIUM THREE POINTED BLACK STARzgTHREE POINTED BLACK STARyMEDIUM THREE POINTED",
    " PINWHEEL STARzjLIGHT FOUR POINTED BLACK STARzeMEDIUM FOUR POINTED BLACK STARzfFOUR POINTED BLACK STARxMEDIU",
    "M FOUR POINTED PINWHEEL STARziREVERSE LIGHT FOUR POINTED PINWHEEL STARzpLIGHT FIVE POINTED BLACK STARzeHEAVY",
    " FIVE POINTED BLACK STARzeMEDIUM SIX POINTED BLACK STARzeHEAVY SIX POINTED BLACK STARzdSIX POINTED PINWHEEL ",
    "STARzaMEDIUM EIGHT POINTED BLACK STARzgHEAVY EIGHT POINTED BLACK STARzfVERY HEAVY EIGHT POINTED BLACK STARzk",
    "HEAVY EIGHT POINTED PINWHEEL STARziLIGHT TWELVE POINTED BLACK STARzgHEAVY TWELVE POINTED BLACK STARkPINWHEEL",
    " STARzjCIRCLED TRIANGLEqNEGATIVE CIRCLED TRIANGLEzaCIRCLED SQUAREoNEGATIVE CIRCLED SQUARE"]⟩,
  ⟨0x1F7E0, [
    "aLARGE ORANGE CIRCLEnYELLOW CIRCLEnGREEN CIRCLEmPURPLE CIRCLEnBROWN CIRCLEmRED SQUAREkBLUE SQUARElORANGE SQU",
    "AREnYELLOW SQUAREnGREEN SQUAREmPURPLE SQUAREnBROWN SQUARE"]⟩,
  ⟨0x1F7F0, ["aHEAVY EQUALS SIGN"]⟩,
  ⟨0x1F800, [
    "aLEFTWARDS ARROW WITH SMALL TRIANGLE ARROWHEADzuUPWARDS ARROW WITH SMALL TRIANGLE ARROWHEADzsRIGHTWARDS ARRO",
    "W WITH SMALL TRIANGLE ARROWHEADzvDOWNWARDS ARROW WITH SMALL TRIANGLE ARROWHEADzuLEFTWARDS ARROW WITH MEDIUM ",
    "TRIANGLE ARROWHEADzvUPWARDS ARROW WITH MEDIUM TRIANGLE ARROWHEADztRIGHTWARDS ARROW WITH MEDIUM TRIANGLE ARRO",
    "WHEADzwDOWNWARDS ARROW WITH MEDIUM TRIANGLE ARROWHEADzvLEFTWARDS ARROW WITH LARGE TRIANGLE ARROWHEADzuUPWARD",
    "S ARROW WITH LARGE TRIANGLE ARROWHEADzsRIGHTWARDS ARROW WITH LARGE TRIANGLE ARROWHEADzvDOWNWARDS ARROW WITH ",
    "LARGE TRIANGLE ARROWHEAD"]⟩,
  ⟨0x1F810, [
    "aLEFTWARDS ARROW WITH SMALL EQUILATERAL ARROWHEADzxUPWARDS ARROW WITH SMALL EQUILATERAL ARROWHEADzvRIGHTWARD",
    "S ARROW WITH SMALL EQUILATERAL ARROWHEADzyDOWNWARDS ARROW WITH SMALL EQUILATERAL ARROWHEADzxLEFTWARDS ARROW ",
    "WITH EQUILATERAL ARROWHEADzrUPWARDS ARROW WITH EQUILATERAL ARROWHEADzpRIGHTWARDS ARROW WITH EQUILATERAL ARRO",
    "WHEADzsDOWNWARDS ARROW WITH EQUILATERAL ARROWHEADzrHEAVY LEFTWARDS ARROW WITH EQUILATERAL ARROWHEADzrUPWARDS",
    " ARROW WITH EQUILATERAL ARROWHEADzpRIGHTWARDS ARROW WITH EQUILATERAL ARROWHEADzsDOWNWARDS ARROW WITH EQUILAT",
    "ERAL ARROWHEADzrLEFTWARDS ARROW WITH LARGE EQUILATERAL ARROWHEADzxUPWARDS ARROW WITH LARGE EQUILATERAL ARROW",
    "HEADzvRIGHTWARDS ARROW WITH LARGE EQUILATERAL ARROWHEADzyDOWNWARDS ARROW WITH LARGE EQUILATERAL ARROWHEADzze",
    "LEFTWARDS TRIANGLE-HEADED ARROW WITH NARROW SHAFTzyUPWARDS TRIANGLE-HEADED ARROW WITH NARROW SHAFTzwRIGHTWAR",
    "DS TRIANGLE-HEADED ARROW WITH NARROW SHAFTzzaDOWNWARDS TRIANGLE-HEADED ARROW WITH NARROW SHAFTzyLEFTWARDS TR",
    "IANGLE-HEADED ARROW WITH MEDIUM SHAFTzyUPWARDS TRIANGLE-HEADED ARROW WITH MEDIUM SHAFTzwRIGHTWARDS TRIANGLE-",
    "HEADED ARROW WITH MEDIUM SHAFTzzaDOWNWARDS TRIANGLE-HEADED ARROW WITH MEDIUM SHAFTzyLEFTWARDS TRIANGLE-HEADE",
    "D ARROW WITH BOLD SHAFTzwUPWARDS TRIANGLE-HEADED ARROW WITH BOLD SHAFTzuRIGHTWARDS TRIANGLE-HEADED ARROW WIT",
    "H BOLD SHAFTzxDOWNWARDS TRIANGLE-HEADED ARROW WITH BOLD SHAFTzwLEFTWARDS TRIANGLE-HEADED ARROW WITH HEAVY SH",
    "AFTzxUPWARDS TRIANGLE-HEADED ARROW WITH HEAVY SHAFTzvRIGHTWARDS TRIANGLE-HEADED ARROW WITH HEAVY SHAFTzyDOWN",
    "WARDS TRIANGLE-HEADED ARROW WITH HEAVY SHAFTzxLEFTWARDS TRIANGLE-HEADED ARROW WITH VERY HEAVY SHAFTzzdUPWARD",
    "S TRIANGLE-HEADED ARROW WITH VERY HEAVY SHAFTzzbRIGHTWARDS TRIANGLE-HEADED ARROW WITH VERY HEAVY SHAFTzzeDOW",
    "NWARDS TRIANGLE-HEADED ARROW WITH VERY HEAVY SHAFTzzdLEFTWARDS FINGER-POST ARROWzcUPWARDS FINGER-POST ARROWz",
    "aRIGHTWARDS FINGER-POST ARROWzdDOWNWARDS FINGER-POST ARROWzcLEFTWARDS SQUARED ARROWxUPWARDS SQUARED ARROWvRI",
    "GHTWARDS SQUARED ARROWyDOWNWARDS SQUARED ARROWxLEFTWARDS COMPRESSED ARROWzbUPWARDS COMPRESSED ARROWyRIGHTWAR",
    "DS COMPRESSED ARROWzcDOWNWARDS COMPRESSED ARROWzbLEFTWARDS HEAVY COMPRESSED ARROWzhUPWARDS HEAVY COMPRESSED ",
    "ARROWzfRIGHTWARDS HEAVY COMPRESSED ARROWziDOWNWARDS HEAVY COMPRESSED ARROWzhLEFTWARDS HEAVY ARROWvUPWARDS HE",
    "AVY ARROWtRIGHTWARDS HEAVY ARROWwDOWNWARDS HEAVY ARROW"]⟩,
  ⟨0x1F850, [
    "aLEFTWARDS SANS-SERIF ARROWzbUPWARDS SANS-SERIF ARROWyRIGHTWARDS SANS-SERIF ARROWzcDOWNWARDS SANS-SERIF ARRO",
    "WzbNORTH WEST SANS-SERIF ARROWvEAST SANS-SERIF ARROWzcSOUTH EAST SANS-SERIF ARROWvWEST SANS-SERIF ARROWzcLEF",
    "T RIGHT SANS-SERIF ARROWzcUP DOWN SANS-SERIF ARROW"]⟩,
  ⟨0x1F860, [
    "aWIDE-HEADED LEFTWARDS LIGHT BARB ARROWzbUPWARDS LIGHT BARB ARROWyRIGHTWARDS LIGHT BARB ARROWzcDOWNWARDS LIG",
    "HT BARB ARROWzbNORTH WEST LIGHT BARB ARROWvEAST LIGHT BARB ARROWzcSOUTH EAST LIGHT BARB ARROWvWEST LIGHT BAR",
    "B ARROWzcLEFTWARDS BARB ARROWuUPWARDS BARB ARROWsRIGHTWARDS BARB ARROWvDOWNWARDS BARB ARROWuNORTH WEST BARB ",
    "ARROWpEAST BARB ARROWvSOUTH EAST BARB ARROWpWEST BARB ARROWvLEFTWARDS MEDIUM BARB ARROWzcUPWARDS MEDIUM BARB",
    " ARROWzaRIGHTWARDS MEDIUM BARB ARROWzdDOWNWARDS MEDIUM BARB ARROWzcNORTH WEST MEDIUM BARB ARROWwEAST MEDIUM ",
    "BARB ARROWzdSOUTH EAST MEDIUM BARB ARROWwWEST MEDIUM BARB ARROWzdLEFTWARDS HEAVY BARB ARROWzbUPWARDS HEAVY B",
    "ARB ARROWyRIGHTWARDS HEAVY BARB ARROWzcDOWNWARDS HEAVY BARB ARROWzbNORTH WEST HEAVY BARB ARROWvEAST HEAVY BA",
    "RB ARROWzcSOUTH EAST HEAVY BARB ARROWvWEST HEAVY BARB ARROWzcLEFTWARDS VERY HEAVY BARB ARROWzgUPWARDS VERY H",
    "EAVY BARB ARROWzeRIGHTWARDS VERY HEAVY BARB ARROWzhDOWNWARDS VERY HEAVY BARB ARROWzgNORTH WEST VERY HEAVY BA",
    "RB ARROWzbEAST VERY HEAVY BARB ARROWzhSOUTH EAST VERY HEAVY BARB ARROWzbWEST VERY HEAVY BARB ARROW"]⟩,
  ⟨0x1F890, [
    "aLEFTWARDS TRIANGLE ARROWHEADzdUPWARDS TRIANGLE ARROWHEADzbRIGHTWARDS TRIANGLE ARROWHEADzeDOWNWARDS TRIANGLE",
    " ARROWHEADzdLEFTWARDS WHITE ARROW WITHIN TRIANGLE ARROWHEADzwUPWARDS WHITE ARROW WITHIN TRIANGLE ARROWHEADzu",
    "RIGHTWARDS WHITE ARROW WITHIN TRIANGLE ARROWHEADzxDOWNWARDS WHITE ARROW WITHIN TRIANGLE ARROWHEADzwLEFTWARDS",
    " ARROW WITH NOTCHED TAILziUPWARDS ARROW WITH NOTCHED TAILzgRIGHTWARDS ARROW WITH NOTCHED TAILzjDOWNWARDS ARR",
    "OW WITH NOTCHED TAILziHEAVY ARROW SHAFT WIDTH ONEdTWO THIRDSkONE HALFeTHIRDziLEFTWARDS BOTTOM-SHADED WHITE A",
    "RROWzkRIGHTWARDS BOTTOM SHADED WHITE ARROWzlLEFTWARDS TOP SHADED WHITE ARROWzhRIGHTWARDS TOP SHADED WHITE AR",
    "ROWziLEFTWARDS LEFT-SHADED WHITE ARROWziRIGHTWARDS RIGHT-SHADED WHITE ARROWzkLEFTWARDS RIGHT-SHADED WHITE AR",
    "ROWzjRIGHTWARDS LEFT-SHADED WHITE ARROWzjLEFTWARDS BACK-TILTED SHADOWED WHITE ARROWzrRIGHTWARDS BACK-TILTED ",
    "SHADOWED WHITE ARROWzsLEFTWARDS FRONT-TILTED SHADOWED WHITE ARROWzsRIGHTWARDS FRONT-TILTED SHADOWED WHITE AR",
    "ROWztWHITE ARROW SHAFT WIDTH ONEdTWO THIRDS"]⟩,
  ⟨0x1F8B0, ["aARROW POINTING UPWARDS THEN NORTH WESTxRIGHTWARDS THEN CURVING SOUTH WEST"]⟩,
  ⟨0x1F900, [
    "aCIRCLED CROSS FORMEE WITH FOUR DOTSjTWO DOTSpEuLEFT HALF CIRCLE WITH FOUR DOTSjTHREE DOTSjWO DOTSiDOTkEqDOW",
    "NWARD FACING HOOKeNOTCHED HOOKmHOOK WITH DOTnNOTCHED HOOK WITH DOTzmPINCHED FINGERSpWHITE HEARTlBROWN HEARTl",
    "PINCHING HANDnZIPPER-MOUTH FACErMONEY-MOUTH FACEqFACE WITH THERMOMETERvNERD FACEjTHINKING FACEnFACE WITH HEA",
    "D-BANDAGEwROBOT FACEkHUGGING FACEmSIGN OF THE HORNSrCALL ME HANDmRAISED BACK OF HANDtLEFT-FACING FISTqRIGHT-",
    "FACING FISTrHANDSHAKEf WITH INDEX AND MIDDLE FINGERS CROSSEDzrI LOVE YOU HAND SIGNuFACE WITH COWBOY HATuCLOW",
    "N FACEkNAUSEATED FACEoROLLING ON THE FLOOR LAUGHINGzeDROOLING FACEnLYING FACEkFACE PALMjSNEEZING FACEnFACE W",
    "ITH ONE EYEBROW RAISEDzdGRINNING FACE WITH STAR EYESjONE LARGE AND ONE SMALL EYEzvFACE WITH FINGER COVERING ",
    "CLOSED LIPSzmSERIOUS FACE WITH SYMBOLS COVERING MOUTHzoMILING FACE WITH SMILING EYES AND HAND COVERING MOUTH",
    "zzeFACE WITH OPEN MOUTH VOMITINGzeSHOCKED FACE WITH EXPLODING HEADzhPREGNANT WOMANoBREAST-FEEDINGoPALMS UP T",
    "OGETHERrSELFIEgPRINCEgMAN IN TUXEDOmOTHER CHRISTMASqSHRUGfPERSON DOING CARTWHEELwJUGGLINGiFENCERgMODERN PENT",
    "ATHLONrWRESTLERSiATER POLOkHANDBALLiDIVING MASKlWILTED FLOWERnDRUM WITH DRUMSTICKSuCLINKING GLASSESqTUMBLER ",
    "GLASSnSPOONfGOAL NETiRIFLEfFIRST PLACE MEDALrSECOND PLACE MEDALsTHIRD PLACE MEDALrBOXING GLOVEmMARTIAL ARTS ",
    "UNIFORMuCURLING STONEnLACROSSE STICK AND BALLxSOFTBALLiFLYING DISClCROISSANTjAVOCADOhCUCUMBERiBACONfPOTATOgC",
    "ARROTgBAGUETTE BREADoGREEN SALADlSHALLOW PAN OF FOODsTUFFED FLATBREADrEGGdGLASS OF MILKnPEANUTShKIWIFRUITjPA",
    "NCAKESiDUMPLINGiFORTUNE COOKIEoTAKEOUT BOXlCHOPSTICKSkBOWL WITH SPOONpCUP WITH STRAWnOCONUThBROCCOLIiPIEcRET",
    "ZELhCUT OF MEATlSANDWICHiCANNED FOODlLEAFY GREENlMANGOeOON CAKEjBAGELfSMILING FACE WITH SMILING EYES AND THR",
    "EE HEARTSzwYAWNING FACEmSMILING FACE WITH TEARwFACE WITH PARTY HORN AND PARTY HATyUNEVEN EYES AND WAVY MOUTH",
    "zlOVERHEATED FACEpFREEZING FACEnNINJAfDISGUISED FACEoFACE HOLDING BACK TEARSsWITH PLEADING EYESxSARIeLAB COA",
    "TiGOGGLEShHIKING BOOTlFLAT SHOEjCRABeLION FACEjSCORPIONiTURKEYgUNICORN FACEmEAGLEfDUCKeBATdSHARKfOWLdFOX FAC",
    "EiBUTTERFLYjDEEReGORILLAhLIZARDgRHINOCEROSkSHRIMPfQUIDfGIRAFFE FACEmZEBRA FACEkHEDGEHOGiSAUROPODiT-REXfCRICK",
    "EThKANGAROOiLLAMAfPEACOCKhHIPPOPOTAMUSmPARROTgRACCOONhLOBSTERhMOSQUITOhICROBEhBADGERgSWANeMAMMOTHhDODOeSLOTH",
    "fOTTEReRANGUTANjSKUNKfFLAMINGOiOYSTERgBEAVERfISONfSEALeGUIDE DOGjPROBING CANEmEMOJI COMPONENT RED HAIRiCURLY",
    " HAIRkBALDeWHITE HAIRzbBONEeLEGdFOOTeTOOTHfSUPERHEROeVILLAINlAFETY VESTlEAR WITH HEARING AIDuMOTORIZED WHEEL",
    "CHAIRtANUAL WHEELCHAIRqECHANICAL ARMdLEGoCHEESE WEDGElUPCAKEhSALT SHAKERlBEVERAGE BOXmGARLICgONIONfFALAFELhW",
    "AFFLEgBUTTERgMATE DRINKkICE CUBEiBUBBLE TEAkTROLLfSTANDING PERSONpKNEELING PERSONpDEAF PERSONlFACE WITH MONO",
    "CLErADULTfCHILDfOLDER ADULTlBEARDED PERSONoPERSON WITH HEADSCARFoIN STEAMY ROOMoCLIMBINGiIN LOTUS POSITIONyM",
    "AGEeFAIRYfVAMPIREhMERPERSONjELFdGENIEfZOMBIEgBRAINfORANGE HEARTmBILLED CAPkSCARFfGLOVESgCOATeSOCKSfRED GIFT ",
    "ENVELOPErFIRECRACKERlJIGSAW PUZZLE PIECEtTEST TUBEjPETRI DISHkDNA DOUBLE HELIXqCOMPASShABACUSgFIRE EXTINGUIS",
    "HERrTOOLBOXhBRICKfMAGNETgLUGGAGEgOTION BOTTLEnSPOOL OF THREADpBALL OF YARNmSAFETY PINkTEDDY BEARkBROOMeASKET",
    "gROLL OF PAPERnBAR OF SOAPlSPONGEgRECEIPThNAZAR AMULETlEUTRAL CHESS KINGeQUEENfROOKeBISHOPgKNIGHTgPAWNsWHITE",
    " CHESS KNIGHT ROTATED FORTY-FIVE DEGREESzuBLACK CHESS KNIGHT ROTATED FORTY-FIVE DEGREESzuNEUTRAL CHESS KNIGH",
    "T ROTATED FORTY-FIVE DEGREESzwWHITE CHESS KING ROTATED NINETY DEGREESzcQUEEN ROTATED NINETY DEGREESzdROOK RO",
    "TATED NINETY DEGREESzcBISHOP ROTATED NINETY DEGREESzeKNIGHT ROTATED NINETY DEGREESzePAWN ROTATED NINETY DEGR",
    "EESzoBLACK CHESS KING ROTATED NINETY DEGREESzcQUEEN ROTATED NINETY DEGREESzdROOK ROTATED NINETY DEGREESzcBIS",
    "HOP ROTATED NINETY DEGREESzeKNIGHT ROTATED NINETY DEGREESzePAWN ROTATED NINETY DEGREESzoNEUTRAL CHESS KING R",
    "OTATED NINETY DEGREESzcQUEEN ROTATED NINETY DEGREESzdROOK ROTATED NINETY DEGREESzcBISHOP ROTATED NINETY DEGR",
    "EESzeKNIGHT ROTATED NINETY DEGREESzePAWN ROTATED NINETY DEGREESzqWHITE CHESS KNIGHT ROTATED ONE HUNDRED THIR",
    "TY-FIVE DEGREESzziBLACK CHESS KNIGHT ROTATED ONE HUNDRED THIRTY-FIVE DEGREESzziNEUTRAL CHESS KNIGHT ROTATED ",
    "ONE HUNDRED THIRTY-FIVE DEGREESzzkWHITE CHESS TURNED KINGeQUEENfROOKeBISHOPgKNIGHTgPAWNxBLACK CHESS TURNED K",
    "INGeQUEENfROOKeBISHOPgKNIGHTgPAWNxNEUTRAL CHESS TURNED KINGeQUEENfROOKeBISHOPgKNIGHTgPAWNzaWHITE CHESS KNIGH",
    "T ROTATED TWO HUNDRED TWENTY-FIVE DEGREESzziBLACK CHESS KNIGHT ROTATED TWO HUNDRED TWENTY-FIVE DEGREESzziNEU",
    "TRAL CHESS KNIGHT ROTATED TWO HUNDRED TWENTY-FIVE DEGREESzzkWHITE CHESS KING ROTATED TWO HUNDRED SEVENTY DEG",
    "REESzpQUEEN ROTATED TWO HUNDRED SEVENTY DEGREESzqROOK ROTATED TWO HUNDRED SEVENTY DEGREESzpBISHOP ROTATED TW",
    "O HUNDRED SEVENTY DEGREESzrKNIGHT ROTATED TWO HUNDRED SEVENTY DEGREESzrPAWN ROTATED TWO HUNDRED SEVENTY DEGR",
    "EESzzcBLACK CHESS KING ROTATED TWO HUNDRED SEVENTY DEGREESzpQUEEN ROTATED TWO HUNDRED SEVENTY DEGREESzqROOK ",
    "ROTATED TWO HUNDRED SEVENTY DEGREESzpBISHOP ROTATED TWO HUNDRED SEVENTY DEGREESzrKNIGHT ROTATED TWO HUNDRED ",
    "SEVENTY DEGREESzrPAWN ROTATED TWO HUNDRED SEVENTY DEGREESzzcNEUTRAL CHESS KING ROTATED TWO HUNDRED SEVENTY D",
    "EGREESzpQUEEN ROTATED TWO HUNDRED SEVENTY DEGREESzqROOK ROTATED TWO HUNDRED SEVENTY DEGREESzpBISHOP ROTATED ",
    "TWO HUNDRED SEVENTY DEGREESzrKNIGHT ROTATED TWO HUNDRED SEVENTY DEGREESzrPAWN ROTATED TWO HUNDRED SEVENTY DE",
    "GREESzzeWHITE CHESS KNIGHT ROTATED THREE HUNDRED FIFTEEN DEGREESzzgBLACK CHESS KNIGHT ROTATED THREE HUNDRED ",
    "FIFTEEN DEGREESzzgNEUTRAL CHESS KNIGHT ROTATED THREE HUNDRED FIFTEEN DEGREESzziWHITE CHESS EQUIHOPPERwBLACK ",
    "CHESS EQUIHOPPERwNEUTRAL CHESS EQUIHOPPERyWHITE CHESS EQUIHOPPER ROTATED NINETY DEGREESzuBLACK CHESS EQUIHOP",
    "PER ROTATED NINETY DEGREESzuNEUTRAL CHESS EQUIHOPPER ROTATED NINETY DEGREESzwWHITE CHESS KNIGHT-QUEENfROOKeB",
    "ISHOPzaBLACK CHESS KNIGHT-QUEENfROOKeBISHOP"]⟩,
  ⟨0x1FA60, [
    "aXIANGQI RED GENERALhMANDARINiELEPHANTiHORSEfCHARIOTgANNONgSOLDIERlBLACK GENERALhMANDARINiELEPHANTiHORSEfCHA",
    "RIOTgANNONgSOLDIER"]⟩,
  ⟨0x1FA70, ["aBALLET SHOESmONE-PIECE SWIMSUITsBRIEFSgSHORTSgTHONG SANDAL"]⟩,
  ⟨0x1FA78, ["aDROP OF BLOODnADHESIVE BANDAGEqSTETHOSCOPElX-RAYfCRUTCH"]⟩,
  ⟨0x1FA80, ["aYO-YOfKITEePARACHUTEjBOOMERANGjMAGIC WANDkPINATAgNESTING DOLLS"]⟩,
  ⟨0x1FA90, [
    "aRINGED PLANETnCHAIRfRAZORfAXEdDIYA LAMPjBANJOfMILITARY HELMETpACCORDIONjLONG DRUMjCOINdARPENTRY SAWnSCREWDR",
    "IVERlLADDERgHOOKeMIRRORgWINDOWgPLUNGERhSEWING NEEDLEnKNOTeBUCKETgMOUSE TRAPkTOOTHBRUSHkHEADSTONEjPLACARDhROC",
    "KeMIRROR BALLlIDENTIFICATION CARDtLOW BATTERYlHAMSA"]⟩,
  ⟨0x1FAB0, ["aFLYdWORMeBEETLEgCOCKROACHjPOTTED PLANTmWOODeFEATHERhLOTUSfCORALfEMPTY NESTkNEST WITH EGGS"]⟩,
  ⟨0x1FAC0, ["aANATOMICAL HEARTqLUNGSfPEOPLE HUGGINGnREGNANT MANdPERSONoERSON WITH CROWN"]⟩,
  ⟨0x1FAD0, ["aBLUEBERRIESkELL PEPPERlOLIVEfFLATBREADjTAMALEgFONDUEgTEAPOTgPOURING LIQUIDoBEANSfJAR"]⟩,
  ⟨0x1FAE0, [
    "aMELTING FACEmSALUTING FACEnFACE WITH OPEN EYES AND HAND OVER MOUTHzePEEKING EYElDIAGONAL MOUTHyDOTTED LINE ",
    "FACEqBITING LIPjUBBLES"]⟩,
  ⟨0x1FAF0, [
    "aHAND WITH INDEX FINGER AND THUMB CROSSEDzpRIGHTWARDS HANDpLEFTWARDS HANDoPALM DOWN HANDjUP HANDmINDEX POINT",
    "ING AT THE VIEWERzdHEART HANDS"]⟩,
  ⟨0x1FB00, [
    "aBLOCK SEXTANT-1b2b12c3b13c23c123d4b14c24c124d34c134d234d1234e5b15c25c125d35c235d1235e45c145d245d1245e345d13",
    "45e2345e12345f6b16c26c126d36c136d236d1236e46c146c246e346d1346e2346e12346f56c156d256d1256e356d1356e2356e12356",
    "f456d1456e2456e12456f3456e13456f23456tLOWER LEFT BLOCK DIAGONAL LOWER MIDDLE LEFT TO LOWER CENTREgRIGHTzhUPP",
    "ER MIDDLE LEFT TO LOWER CENTREgRIGHTzbLEFT TO LOWER CENTREzvRIGHT BLOCK DIAGONAL UPPER MIDDLE LEFT TO UPPER ",
    "CENTREgRIGHTzhLOWER MIDDLE LEFT TO UPPER CENTREgRIGHTzbLEFT TO UPPER CENTREuMIDDLE LEFT TO UPPER MIDDLE RIGH",
    "TziCENTRE TO LOWER MIDDLE RIGHTzdLEFT TO LOWER MIDDLE RIGHTzbCENTRE TO UPPER MIDDLE RIGHTzdLEFT TO UPPER MID",
    "DLE RIGHTzbCENTRE TO UPPER RIGHTzxLEFT BLOCK DIAGONAL UPPER CENTRE TO UPPER MIDDLE RIGHTzdLEFT TO UPPER MIDD",
    "LE RIGHTzbCENTRE TO LOWER MIDDLE RIGHTzdLEFT TO LOWER MIDDLE RIGHTzbCENTRE TO LOWER RIGHTvMIDDLE LEFT TO LOW",
    "ER MIDDLE RIGHTzzpUPPER RIGHT BLOCK DIAGONAL LOWER MIDDLE LEFT TO LOWER CENTREgRIGHTzhUPPER MIDDLE LEFT TO L",
    "OWER CENTREgRIGHTzbLEFT TO LOWER CENTREzwLEFT BLOCK DIAGONAL UPPER MIDDLE LEFT TO UPPER CENTREgRIGHTzhLOWER ",
    "MIDDLE LEFT TO UPPER CENTREgRIGHTzbLEFT TO UPPER CENTREuMIDDLE LEFT TO UPPER MIDDLE RIGHTziCENTRE TO LOWER M",
    "IDDLE RIGHTzdLEFT TO LOWER MIDDLE RIGHTzbCENTRE TO UPPER MIDDLE RIGHTzdLEFT TO UPPER MIDDLE RIGHTzbCENTRE TO",
    " UPPER RIGHTzwRIGHT BLOCK DIAGONAL UPPER CENTRE TO UPPER MIDDLE RIGHTzdLEFT TO UPPER MIDDLE RIGHTzbCENTRE TO",
    " LOWER MIDDLE RIGHTzdLEFT TO LOWER MIDDLE RIGHTzbCENTRE TO LOWER RIGHTvMIDDLE LEFT TO LOWER MIDDLE RIGHTzzkA",
    "ND RIGHT AND LOWER TRIANGULAR THREE QUARTERS BLOCKzzhLEFT AND LOWER AND RIGHT TRIANGULAR THREE QUARTERS BLOC",
    "KzzgUPPER AND LEFT AND LOWER TRIANGULAR THREE QUARTERS BLOCKzzgLEFT AND UPPER AND RIGHT TRIANGULAR THREE QUA",
    "RTERS BLOCKzzbTRIANGULAR ONE QUARTER BLOCKziUPPER TRIANGULAR ONE QUARTER BLOCKzjRIGHT TRIANGULAR ONE QUARTER",
    " BLOCKzjLOWER TRIANGULAR ONE QUARTER BLOCKzjVERTICAL ONE EIGHTH BLOCK-2b3b4b5b6b7zcHORIZONTAL ONE EIGHTH BLO",
    "CK-2b3b4b5b6b7zeLEFT AND LOWER ONE EIGHTH BLOCKwUPPER ONE EIGHTH BLOCKzgRIGHT AND UPPER ONE EIGHTH BLOCKwLOW",
    "ER ONE EIGHTH BLOCKzhUPPER AND LOWER ONE EIGHTH BLOCKzhHORIZONTAL ONE EIGHTH BLOCK-1358zhUPPER ONE QUARTER B",
    "LOCKrTHREE EIGHTHS BLOCKtFIVE EIGHTHS BLOCKsTHREE QUARTERS BLOCKuSEVEN EIGHTHS BLOCKzaRIGHT ONE QUARTER BLOC",
    "KrTHREE EIGHTHS BLOCKtFIVE EIGHTHS BLOCKsTHREE QUARTERS BLOCKuSEVEN EIGHTHS BLOCKzaLEFT HALF MEDIUM SHADEwRI",
    "GHT HALF MEDIUM SHADExUPPER HALF MEDIUM SHADExLOWER HALF MEDIUM SHADExINVERSE MEDIUM SHADEuUPPER HALF BLOCK ",
    "AND LOWER HALF INVERSE MEDIUM SHADEzqINVERSE MEDIUM SHADE AND LOWER HALF BLOCK"]⟩,
  ⟨0x1FB94, [
    "aLEFT HALF INVERSE MEDIUM SHADE AND RIGHT HALF BLOCKzzbCHECKER BOARD FILLsINVERSE CHECKER BOARD FILLzbHEAVY ",
    "HORIZONTAL FILLvUPPER LEFT TO LOWER RIGHT FILLyRIGHT TO LOWER LEFT FILLyAND LOWER TRIANGULAR HALF BLOCKzmLEF",
    "T AND RIGHT TRIANGULAR HALF BLOCKzlUPPER LEFT TRIANGULAR MEDIUM SHADEzdRIGHT TRIANGULAR MEDIUM SHADEzkLOWER ",
    "RIGHT TRIANGULAR MEDIUM SHADEzeLEFT TRIANGULAR MEDIUM SHADEzjBOX DRAWINGS LIGHT DIAGONAL UPPER CENTRE TO MID",
    "DLE LEFTeRIGHTzdMIDDLE LEFT TO LOWER CENTREuRIGHT TO LOWER CENTREzdUPPER CENTRE TO MIDDLE LEFT TO LOWER CENT",
    "REuRIGHT TO LOWER CENTREztMIDDLE LEFT TO LOWER CENTRE TO MIDDLE RIGHTzdUPPER CENTRE TO MIDDLE RIGHTzsUPPER C",
    "ENTRE TO MIDDLE LEFT AND MIDDLE RIGHT TO LOWER CENTREzmRIGHT AND MIDDLE LEFT TO LOWER CENTREzgTO LOWER CENTR",
    "E TO MIDDLE LEFTzlLEFT TO LOWER CENTRE TO MIDDLE RIGHTzzjMIDDLE LEFT TO UPPER CENTRE TO MIDDLE RIGHT TO LOWE",
    "R CENTREzzcRIGHT TO UPPER CENTRE TO MIDDLE LEFT TO LOWER CENTREzzjDIAMONDqHORIZONTAL WITH VERTICAL STROKEzza",
    "ARROWHEAD-SHAPED POINTERyINVERSE CHECK MARKsLEFT HALF RUNNING MANvRIGHT HALF RUNNING MANwINVERSE DOWNWARDS A",
    "RROW WITH TIP LEFTWARDSzrLEFTWARDS ARROW AND UPPER AND LOWER ONE EIGHTH BLOCKzzcRIGHTWARDS ARROW AND UPPER A",
    "ND LOWER ONE EIGHTH BLOCKzzdDOWNWARDS ARROW AND RIGHT ONE EIGHTH BLOCKzrUPWARDS ARROW AND RIGHT ONE EIGHTH B",
    "LOCKzpLEFT HALF FOLDERqRIGHT HALF FOLDERrVOIDED GREEK CROSSsRIGHT OPEN SQUARED DOTwNEGATIVE DIAGONAL CROSSfM",
    "IDDLE RIGHT TO LOWER CENTREzdDIAMONDzaWHITE HEAVY SALTIRE WITH ROUNDED CORNERSzpLEFT THIRD WHITE RIGHT POINT",
    "ING INDEXzmMIDDLE THIRD WHITE RIGHT POINTING INDEXzoRIGHT THIRD WHITE RIGHT POINTING INDEXznNEGATIVE SQUARED",
    " QUESTION MARKzfSTICK FIGUREa WITH ARMS RAISEDqLEANING LEFTeRIGHTnWITH DRESSxWHITE UP-POINTING CHEVRON"]⟩,
  ⟨0x1FBF0, ["aSEGMENTED DIGIT ZEROeONEdTWOcHREEfFOURdIVEeSIXcEVENfEIGHTfNINE"]⟩,
  ⟨0x2F800, [
    "aCJK COMPATIBILITY IDEOGRAPH-2F800b1b2b3b4b5b6b7b8b9bAbBbCbDbEbFc10b1b2b3b4b5b6b7b8b9bAbBbCbDbEbFc20b1b2b3b4",
    "b5b6b7b8b9bAbBbCbDbEbFc30b1b2b3b4b5b6b7b8b9bAbBbCbDbEbFc40b1b2b3b4b5b6b7b8b9bAbBbCbDbEbFc50b1b2b3b4b5b6b7b8b",
    "9bAbBbCbDbEbFc60b1b2b3b4b5b6b7b8b9bAbBbCbDbEbFc70b1b2b3b4b5b6b7b8b9bAbBbCbDbEbFc80b1b2b3b4b5b6b7b8b9bAbBbCbD",
    "bEbFc90b1b2b3b4b5b6b7b8b9bAbBbCbDbEbFcA0b1b2b3b4b5b6b7b8b9bAbBbCbDbEbFcB0b1b2b3b4b5b6b7b8b9bAbBbCbDbEbFcC0b1",
    "b2b3b4b5b6b7b8b9bAbBbCbDbEbFcD0b1b2b3b4b5b6b7b8b9bAbBbCbDbEbFcE0b1b2b3b4b5b6b7b8b9bAbBbCbDbEbFcF0b1b2b3b4b5b",
    "6b7b8b9bAbBbCbDbEbFd900b1b2b3b4b5b6b7b8b9bAbBbCbDbEbFc10b1b2b3b4b5b6b7b8b9bAbBbCbDbEbFc20b1b2b3b4b5b6b7b8b9b",
    "AbBbCbDbEbFc30b1b2b3b4b5b6b7b8b9bAbBbCbDbEbFc40b1b2b3b4b5b6b7b8b9bAbBbCbDbEbFc50b1b2b3b4b5b6b7b8b9bAbBbCbDbE",
    "bFc60b1b2b3b4b5b6b7b8b9bAbBbCbDbEbFc70b1b2b3b4b5b6b7b8b9bAbBbCbDbEbFc80b1b2b3b4b5b6b7b8b9bAbBbCbDbEbFc90b1b2",
    "b3b4b5b6b7b8b9bAbBbCbDbEbFcA0b1b2b3b4b5b6b7b8b9bAbBbCbDbEbFcB0b1b2b3b4b5b6b7b8b9bAbBbCbDbEbFcC0b1b2b3b4b5b6b",
    "7b8b9bAbBbCbDbEbFcD0b1b2b3b4b5b6b7b8b9bAbBbCbDbEbFcE0b1b2b3b4b5b6b7b8b9bAbBbCbDbEbFcF0b1b2b3b4b5b6b7b8b9bAbB",
    "bCbDbEbFdA00b1b2b3b4b5b6b7b8b9bAbBbCbDbEbFc10b1b2b3b4b5b6b7b8b9bAbBbCbD"]⟩,
  ⟨0xE0001, ["aLANGUAGE TAG"]⟩,
  ⟨0xE0020, [
    "aTAG SPACEfEXCLAMATION MARKqQUOTATION MARKoNUMBER SIGNlDOLLAR SIGNlPERCENT SIGNmAMPERSANDiPOSTROPHEkLEFT PAR",
    "ENTHESISqRIGHT PARENTHESISrASTERISKiPLUS SIGNjCOMMAfHYPHEN-MINUSmFULL STOPjSOLIDUShDIGIT ZEROeONEdTWOcHREEfF",
    "OURdIVEeSIXcEVENfEIGHTfNINEkCOLONfSEMICOLONjLESS-THAN SIGNoEQUALS SIGNlGREATER-THAN SIGNrQUESTION MARKnCOMME",
    "RCIAL ATnLATIN CAPITAL LETTER AbBbCbDbEbFbGbHbIbJbKbLbMbNbObPbQbRbSbTbUbVbWbXbYbZvEFT SQUARE BRACKETtREVERSE",
    " SOLIDUSoIGHT SQUARE BRACKETuCIRCUMFLEX ACCENTrLOW LINEiGRAVE ACCENTmLATIN SMALL LETTER AbBbCbDbEbFbGbHbIbJb",
    "KbLbMbNbObPbQbRbSbTbUbVbWbXbYbZtEFT CURLY BRACKETsVERTICAL LINEnRIGHT CURLY BRACKETtTILDEjCANCEL TAG"]⟩,
  ⟨0xE0100, [
    "aVARIATION SELECTOR-17b8b9c20b1b2b3b4b5b6b7b8b9c30b1b2b3b4b5b6b7b8b9c40b1b2b3b4b5b6b7b8b9c50b1b2b3b4b5b6b7b8",
    "b9c60b1b2b3b4b5b6b7b8b9c70b1b2b3b4b5b6b7b8b9c80b1b2b3b4b5b6b7b8b9c90b1b2b3b4b5b6b7b8b9c100b1b2b3b4b5b6b7b8b9",
    "c10b1b2b3b4b5b6b7b8b9c20b1b2b3b4b5b6b7b8b9c30b1b2b3b4b5b6b7b8b9c40b1b2b3b4b5b6b7b8b9c50b1b2b3b4b5b6b7b8b9c60",
    "b1b2b3b4b5b6b7b8b9c70b1b2b3b4b5b6b7b8b9c80b1b2b3b4b5b6b7b8b9c90b1b2b3b4b5b6b7b8b9d200b1b2b3b4b5b6b7b8b9c10b1",
    "b2b3b4b5b6b7b8b9c20b1b2b3b4b5b6b7b8b9c30b1b2b3b4b5b6b7b8b9c40b1b2b3b4b5b6b7b8b9c50b1b2b3b4b5b6"]⟩]

end DomainPolicy.CharacterName
