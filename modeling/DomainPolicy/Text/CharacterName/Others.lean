import DomainPolicy.Text.CharacterName.Basic

/-!
# Further names of characters

* Controls have no names but these, and some characters have others than their own: corrected, older or shorter ones.
-/

namespace DomainPolicy.CharacterName

/-- Names that characters have beside their own. -/
def others : List Block := [
  ⟨0x0000, [
    "aNULLeSTART OF HEADINGhTEXTnEND OF TEXTdRANSMISSIONrQUIRYhACKNOWLEDGEkLERTfBACKSPACEjCHARACTER TABULATIONuLI",
    "NE FEEDeTABULATIONpFORM FEEDjCARRIAGE RETURNpSHIFT OUTdINiDATA LINK ESCAPEpEVICE CONTROL ONEdTWOcHREEfFOURtN",
    "EGATIVE ACKNOWLEDGEuSYNCHRONOUS IDLEqEND OF TRANSMISSION BLOCKzaCANCELgEND OF MEDIUMnSUBSTITUTEkESCAPEgINFOR",
    "MATION SEPARATOR FOUReTHREEeWOdONEzaSP"]⟩,
  ⟨0x0000, [
    "aNULdSOHcTXdETXcOTcNQdACKdBELcScHORIZONTAL TABULATIONvNEW LINEiVERTICAL TABULATIONtFFcCRcLOCKING-SHIFT ONEdZ",
    "EROsDLEcC1b2b3b4dNAKdSYNdETBdCANdEOMdSUBdESCdFILE SEPARATORoGROUP SEPARATORpRECORD SEPARATORqUNIT SEPARATOR"]⟩,
  ⟨0x0009, ["aHTcEND OF LINElVT"]⟩,
  ⟨0x0009, ["aTABdLF"]⟩,
  ⟨0x000A, ["aNL"]⟩,
  ⟨0x000A, ["aEOL"]⟩,
  ⟨0x000E, ["aSObI"]⟩,
  ⟨0x001C, ["aFScGScRScUS"]⟩,
  ⟨0x007F, [
    "aDELETEgPADDING CHARACTERrHIGH OCTET PRESETrBREAK PERMITTED HEREuNO BREAK HEREnINDEXfNEXT LINEjSTART OF SELE",
    "CTED AREAwEND OF SELECTED AREAuCHARACTER TABULATION SETdWITH JUSTIFICATIONzoLINE TABULATION SETtPARTIAL LINE",
    " FORWARDhBACKWARDvREVERSE LINE FEEDrSINGLE SHIFT TWOcHREEsDEVICE CONTROL STRINGvPRIVATE USE ONEdTWOpSET TRAN",
    "SMIT STATEsCANCEL CHARACTERqMESSAGE WAITINGpSTART OF GUARDED AREAvEND OF GUARDED AREAtSTART OF STRINGoINGLE ",
    "GRAPHIC CHARACTER INTRODUCERzdCHARACTER INTRODUCERzcCONTROL SEQUENCE INTRODUCERzcSTRING TERMINATORrOPERATING",
    " SYSTEM COMMANDyPRIVACY MESSAGEpAPPLICATION PROGRAM COMMANDzcNBSP"]⟩,
  ⟨0x007F, [
    "aDELdPADdHOPdBPHdNBHdINDdNELdSSAdESAdHORIZONTAL TABULATION SETdWITH JUSTIFICATIONzpVERTICAL TABULATION SETxP",
    "ARTIAL LINE DOWNeUPpREVERSE INDEXnSINGLE-SHIFT-2b3oDCSdPRIVATE USE-1b2nSTSdCCHdMWcSTART OF PROTECTED AREAxEN",
    "D OF PROTECTED AREAvSOScGCcCIdCSIdSTcOSCdPMcAPC"]⟩,
  ⟨0x0088, ["aHTSbJdVTSdPLDbUdRIcSS2b3"]⟩,
  ⟨0x0091, ["aPU1b2"]⟩,
  ⟨0x0096, ["aSPAdEPA"]⟩,
  ⟨0x00AD, ["aSHY"]⟩,
  ⟨0x01A2, ["aLATIN CAPITAL LETTER GHAsSMALL LETTER GHA"]⟩,
  ⟨0x034F, ["aCGJ"]⟩,
  ⟨0x061C, ["aALM"]⟩,
  ⟨0x0709, ["aSYRIAC SUBLINEAR COLON SKEWED LEFT"]⟩,
  ⟨0x0CDE, ["aKANNADA LETTER LLLA"]⟩,
  ⟨0x0E9D, ["aLAO LETTER FO FON"]⟩,
  ⟨0x0E9F, ["aLAO LETTER FO FAY"]⟩,
  ⟨0x0EA3, ["aLAO LETTER RO"]⟩,
  ⟨0x0EA5, ["aLAO LETTER LO"]⟩,
  ⟨0x0FD0, ["aTIBETAN MARK BKA- SHOG GI MGO RGYAN"]⟩,
  ⟨0x11EC, ["aHANGUL JONGSEONG YESIEUNG-KIYEOKgSSANGKIYEOKuSSANGYESIEUNGnYESIEUNG-KHIEUKH"]⟩,
  ⟨0x180B, ["aFVS1b2b3eMVSdFVS4"]⟩,
  ⟨0x200B, ["aZWSPcNJcJdLRMdRLM"]⟩,
  ⟨0x202A, ["aLREdRLEdPDFdLROdRLOdNNBSP"]⟩,
  ⟨0x205F, ["aMMSPeWJ"]⟩,
  ⟨0x2066, ["aLRIdRLIdFSIdPDI"]⟩,
  ⟨0x2118, ["aWEIERSTRASS ELLIPTIC FUNCTION"]⟩,
  ⟨0x2448, ["aMICR ON US SYMBOLmDASH SYMBOL"]⟩,
  ⟨0x2B7A, ["aLEFTWARDS TRIANGLE-HEADED ARROW WITH DOUBLE VERTICAL STROKE"]⟩,
  ⟨0x2B7C, ["aRIGHTWARDS TRIANGLE-HEADED ARROW WITH DOUBLE VERTICAL STROKE"]⟩,
  ⟨0xA015, ["aYI SYLLABLE ITERATION MARK"]⟩,
  ⟨0xAA6E, ["aMYANMAR LETTER KHAMTI LLA"]⟩,
  ⟨0xFE00, ["aVS1b2b3b4b5b6b7b8b9b10b1b2b3b4b5b6"]⟩,
  ⟨0xFE18, ["aPRESENTATION FORM FOR VERTICAL RIGHT WHITE LENTICULAR BRACKET"]⟩,
  ⟨0xFEFF, ["aBYTE ORDER MARK"]⟩,
  ⟨0xFEFF, ["aBOM"]⟩,
  ⟨0xFEFF, ["aZWNBSP"]⟩,
  ⟨0x122D4, ["aCUNEIFORM SIGN NU11 TENUeOVER NU11 BUR OVER BUR"]⟩,
  ⟨0x16E56, ["aMEDEFAIDRIN CAPITAL LETTER HbNG"]⟩,
  ⟨0x16E76, ["aMEDEFAIDRIN SMALL LETTER HbNG"]⟩,
  ⟨0x1B001, ["aHENTAIGANA LETTER E-1"]⟩,
  ⟨0x1D0C5, ["aBYZANTINE MUSICAL SYMBOL FTHORA SKLIRON CHROMA VASIS"]⟩,
  ⟨0xE0100, [
    "aVS17b8b9c20b1b2b3b4b5b6b7b8b9c30b1b2b3b4b5b6b7b8b9c40b1b2b3b4b5b6b7b8b9c50b1b2b3b4b5b6b7b8b9c60b1b2b3b4b5b6",
    "b7b8b9c70b1b2b3b4b5b6b7b8b9c80b1b2b3b4b5b6b7b8b9c90b1b2b3b4b5b6b7b8b9c100b1b2b3b4b5b6b7b8b9c10b1b2b3b4b5b6b7",
    "b8b9c20b1b2b3b4b5b6b7b8b9c30b1b2b3b4b5b6b7b8b9c40b1b2b3b4b5b6b7b8b9c50b1b2b3b4b5b6b7b8b9c60b1b2b3b4b5b6b7b8b",
    "9c70b1b2b3b4b5b6b7b8b9c80b1b2b3b4b5b6b7b8b9c90b1b2b3b4b5b6b7b8b9d200b1b2b3b4b5b6b7b8b9c10b1b2b3b4b5b6b7b8b9c",
    "20b1b2b3b4b5b6b7b8b9c30b1b2b3b4b5b6b7b8b9c40b1b2b3b4b5b6b7b8b9c50b1b2b3b4b5b6"]⟩]

end DomainPolicy.CharacterName
