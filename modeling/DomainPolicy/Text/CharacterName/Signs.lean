import DomainPolicy.Text.CharacterName.Basic

/-!
# Names of characters, from U+2000 to U+2FFF

* Punctuation, signs of all kinds, and some more scripts.
-/

namespace DomainPolicy.CharacterName

/-- The names of the characters from U+2000 on. -/
def signs : List Block := [
  ⟨0x2000, [
    "aEN QUADgM QUADgN SPACEhM SPACEiTHREE-PER-EM SPACEsFOUR-PER-EM SPACErSIX-PER-EM SPACEqFIGURE SPACEmPUNCTUATI",
    "ON SPACErTHIN SPACEkHAIR SPACEkZERO WIDTH SPACEfNON-JOINERkJOINERrLEFT-TO-RIGHT MARKsRIGHT-TO-LEFT MARKsHYPH",
    "ENgNON-BREAKING HYPHENtFIGURE DASHlEN DASHgM DASHhHORIZONTAL BARoDOUBLE VERTICAL LINEnLOW LINEpLEFT SINGLE Q",
    "UOTATION MARKzbRIGHT SINGLE QUOTATION MARKzcSINGLE LOW-9 QUOTATION MARKuHIGH-REVERSED-9 QUOTATION MARKzmLEFT",
    " DOUBLE QUOTATION MARKzbRIGHT DOUBLE QUOTATION MARKzcDOUBLE LOW-9 QUOTATION MARKuHIGH-REVERSED-9 QUOTATION M",
    "ARKzlAGGERfOUBLE DAGGERnBULLETgTRIANGULAR BULLETrONE DOT LEADERoTWO DOT LEADERoHORIZONTAL ELLIPSISsYPHENATIO",
    "N POINTrLINE SEPARATORoPARAGRAPH SEPARATORtLEFT-TO-RIGHT EMBEDDINGxRIGHT-TO-LEFT EMBEDDINGxPOP DIRECTIONAL F",
    "ORMATTINGzbLEFT-TO-RIGHT OVERRIDEwRIGHT-TO-LEFT OVERRIDEwNARROW NO-BREAK SPACEvPER MILLE SIGNkTEN THOUSAND S",
    "IGNuRIMEfDOUBLE PRIMEmTRIPLE PRIMEmREVERSED PRIMEfDOUBLE PRIMEmTRIPLE PRIMEvCARETfSINGLE LEFT-POINTING ANGLE",
    " QUOTATION MARKzjRIGHT-POINTING ANGLE QUOTATION MARKzrREFERENCE MARKoDOUBLE EXCLAMATION MARKxINTERROBANGlOVE",
    "RLINEiUNDERTIEiCHARACTER TIEmARET INSERTION POINTvASTERISMiHYPHEN BULLETnFRACTION SLASHoLEFT SQUARE BRACKET ",
    "WITH QUILLzfRIGHT SQUARE BRACKET WITH QUILLzgDOUBLE QUESTION MARKuQUESTION EXCLAMATION MARKzaEXCLAMATION QUE",
    "STION MARKzaTIRONIAN SIGN ETqREVERSED PILCROW SIGNvBLACK LEFTWARDS BULLETqRIGHTWARDS BULLETxLOW ASTERISKmREV",
    "ERSED SEMICOLONsCLOSE UPiTWO ASTERISKS ALIGNED VERTICALLYzhCOMMERCIAL MINUS SIGNvSWUNG DASHkINVERTED UNDERTI",
    "ErFLOWER PUNCTUATION MARKxTHREE DOT PUNCTUATIONvQUADRUPLE PRIMEpFOUR DOT PUNCTUATIONtIVE DOT PUNCTUATIONuTWO",
    " DOT PUNCTUATIONtFOUR DOT MARKnDOTTED CROSSmTRICOLONiVERTICAL FOUR DOTSsMEDIUM MATHEMATICAL SPACEzaWORD JOIN",
    "ERlFUNCTION APPLICATIONuINVISIBLE TIMESfSEPARATORjPLUS"]⟩,
  ⟨0x2066, [
    "aLEFT-TO-RIGHT ISOLATEvRIGHT-TO-LEFT ISOLATEvFIRST STRONG ISOLATEuPOP DIRECTIONAL ISOLATExINHIBIT SYMMETRIC ",
    "SWAPPINGzbACTIVATE SYMMETRIC SWAPPINGzcINHIBIT ARABIC FORM SHAPINGzcACTIVATE ARABIC FORM SHAPINGzdNATIONAL D",
    "IGIT SHAPESuOMINAL DIGIT SHAPESuSUPERSCRIPT ZEROeLATIN SMALL LETTER I"]⟩,
  ⟨0x2074, [
    "aSUPERSCRIPT FOURdIVEeSIXcEVENfEIGHTfNINEePLUS SIGNjMINUSfEQUALS SIGNlLEFT PARENTHESISqRIGHT PARENTHESISrLAT",
    "IN SMALL LETTER NzfBSCRIPT ZEROeONEdTWOcHREEfFOURdIVEeSIXcEVENfEIGHTfNINEePLUS SIGNjMINUSfEQUALS SIGNlLEFT P",
    "ARENTHESISqRIGHT PARENTHESIS"]⟩,
  ⟨0x2090, ["aLATIN SUBSCRIPT SMALL LETTER AbEbObXbSCHWAfHbKbLbMbNbPbSbT"]⟩,
  ⟨0x20A0, [
    "aEURO-CURRENCY SIGNsCOLON SIGNjRUZEIRO SIGNnFRENCH FRANC SIGNrLIRA SIGNjMILL SIGNjNAIRA SIGNkPESETA SIGNlRUP",
    "EE SIGNkWON SIGNiNEW SHEQEL SIGNpDONG SIGNjEURO SIGNjKIP SIGNiTUGRIK SIGNlDRACHMA SIGNmGERMAN PENNY SIGNrPES",
    "O SIGNjGUARANI SIGNmAUSTRAL SIGNmHRYVNIA SIGNmCEDI SIGNjLIVRE TOURNOIS SIGNtSPESMILO SIGNnTENGE SIGNkINDIAN ",
    "RUPEE SIGNrTURKISH LIRA SIGNrNORDIC MARK SIGNqMANAT SIGNkRUBLE SIGNkLARI SIGNjBITCOIN SIGNmSOM SIGN"]⟩,
  ⟨0x20D0, [
    "aCOMBINING LEFT HARPOON ABOVEsRIGHT HARPOON ABOVEtLONG VERTICAL LINE OVERLAYzbSHORT VERTICAL LINE OVERLAYzcA",
    "NTICLOCKWISE ARROW ABOVEzaCLOCKWISE ARROW ABOVEvLEFT ARROW ABOVEqRIGHT ARROW ABOVEpNG OVERLAYmCLOCKWISE RING",
    " OVERLAYwANTICLOCKWISE RING OVERLAYzbTHREE DOTS ABOVEqFOUR DOTS ABOVEpENCLOSING CIRCLEgSQUAREgDIAMONDhCIRCLE",
    " BACKSLASHzbLEFT RIGHT ARROW ABOVEwENCLOSING SCREENgKEYCAPgUPWARD POINTING TRIANGLEzjREVERSE SOLIDUS OVERLAY",
    "xDOUBLE VERTICAL STROKE OVERLAYzfANNUITY SYMBOLoTRIPLE UNDERDOTpWIDE BRIDGE ABOVErLEFTWARDS ARROW OVERLAYwON",
    "G DOUBLE SOLIDUS OVERLAYzcRIGHTWARDS HARPOON WITH BARB DOWNWARDSznLEFTWARDS HARPOON WITH BARB DOWNWARDSzi AR",
    "ROW BELOWqRIGHT ARROW BELOWrASTERISK ABOVE"]⟩,
  ⟨0x2100, [
    "aACCOUNT OFjDDRESSED TO THE SUBJECTyDOUBLE-STRUCK CAPITAL CwEGREE CELSIUSoCENTRE LINE SYMBOLrARE OFfDA UNAiE",
    "ULER CONSTANToSCRUPLEhDEGREE FAHRENHEITrSCRIPT SMALL GhCAPITAL HqBLACK-LETTER CAPITAL HwDOUBLE-STRUCK CAPITA",
    "L HxPLANCK CONSTANTa OVER TWO PIzcSCRIPT CAPITAL IqBLACK-LETTER CAPITAL IwSCRIPT CAPITAL LjSMALL LoL B BAR S",
    "YMBOLoDOUBLE-STRUCK CAPITAL NxNUMERO SIGNlSOUND RECORDING COPYRIGHTyCRIPT CAPITAL PqDOUBLE-STRUCK CAPITAL Pb",
    "QxSCRIPT CAPITAL RqBLACK-LETTER CAPITAL RwDOUBLE-STRUCK CAPITAL RxPRESCRIPTION TAKErRESPONSEiSERVICE MARKmTE",
    "LEPHONE SIGNnRADE MARK SIGNpVERSICLEiDOUBLE-STRUCK CAPITAL ZxOUNCE SIGNjHM SIGNiINVERTED OHM SIGNrBLACK-LETT",
    "ER CAPITAL ZwTURNED GREEK SMALL LETTER IOTAzfKELVIN SIGNlANGSTROM SIGNnSCRIPT CAPITAL BqBLACK-LETTER CAPITAL",
    " CwESTIMATED SYMBOLqSCRIPT SMALL EhCAPITAL EbFqTURNED CAPITAL FqSCRIPT CAPITAL MjSMALL OoALEF SYMBOLlBET SYM",
    "BOLkGIMEL SYMBOLmDALET SYMBOLmINFORMATION SOURCEsROTATED CAPITAL QrFACSIMILE SIGNoDOUBLE-STRUCK SMALL PIcGAM",
    "MAlCAPITAL GAMMAfPIkN-ARY SUMMATIONzeTURNED SANS-SERIF CAPITAL GbLzcREVERSED SANS-SERIF CAPITAL LzeTURNED SA",
    "NS-SERIF CAPITAL YzcDOUBLE-STRUCK ITALIC CAPITAL DjSMALL DbEbIbJzdPROPERTY LINEnTURNED AMPERSANDqPER SIGNiAK",
    "TIESELSKABmTURNED SMALL FoSYMBOL FOR SAMARITAN SOURCEzcVULGAR FRACTION ONE SEVENTHhNINTHfTENTHeHIRDjTWO THIR",
    "DSkONE FIFTHjTWO FIFTHSjHREE FIFTHSmFOUR FIFTHSlONE SIXTHjFIVE SIXTHSlONE EIGHTHkTHREE EIGHTHSnFIVE EIGHTHSm",
    "SEVEN EIGHTHSzeFRACTION NUMERATOR ONEwROMAN NUMERAL ONEdTWOcHREEfFOURdIVEeSIXcEVENfEIGHTfNINEeTENdELEVENgTWE",
    "LVEgFIFTYfONE HUNDREDlFIVE HUNDREDmONE THOUSANDzbSMALL ROMAN NUMERAL ONEdTWOcHREEfFOURdIVEeSIXcEVENfEIGHTfNI",
    "NEeTENdELEVENgTWELVEgFIFTYfONE HUNDREDlFIVE HUNDREDmONE THOUSANDzhROMAN NUMERAL ONE THOUSAND C DqFIVE THOUSA",
    "NDnTEN THOUSANDmREVERSED ONE HUNDREDzjLATIN SMALL LETTER REVERSED CzeROMAN NUMERAL SIX LATE FORMnFIFTY EARLY",
    " FORMkTHOUSANDoONE HUNDRED THOUSANDzjVULGAR FRACTION ZERO THIRDSzcTURNED DIGIT TWOcHREE"]⟩,
  ⟨0x2190, [
    "aLEFTWARDS ARROWpUPWARDS ARROWnRIGHTWARDS ARROWqDOWNWARDS ARROWpLEFT RIGHT ARROWqUP DOWN ARROWnNORTH WEST AR",
    "ROWkEAST ARROWqSOUTH EAST ARROWkWEST ARROWqLEFTWARDS ARROW WITH STROKEzcRIGHTWARDS ARROW WITH STROKEzdLEFTWA",
    "RDS WAVE ARROWuRIGHTWARDS WAVE ARROWvLEFTWARDS TWO HEADED ARROWzbUPWARDS TWO HEADED ARROWyRIGHTWARDS TWO HEA",
    "DED ARROWzcDOWNWARDS TWO HEADED ARROWzbLEFTWARDS ARROW WITH TAILzaRIGHTWARDS ARROW WITH TAILzbLEFTWARDS ARRO",
    "W FROM BARyUPWARDS ARROW FROM BARwRIGHTWARDS ARROW FROM BARzaDOWNWARDS ARROW FROM BARyUP DOWN ARROW WITH BAS",
    "ExLEFTWARDS ARROW WITH HOOKzaRIGHTWARDS ARROW WITH HOOKzbLEFTWARDS ARROW WITH LOOPzaRIGHTWARDS ARROW WITH LO",
    "OPzbLEFT RIGHT WAVE ARROWkARROW WITH STROKEzdDOWNWARDS ZIGZAG ARROWwUPWARDS ARROW WITH TIP LEFTWARDSjRIGHTWA",
    "RDSziDOWNWARDS ARROW WITH TIP LEFTWARDSjRIGHTWARDSzkRIGHTWARDS ARROW WITH CORNER DOWNWARDSznDOWNWARDS ARROW ",
    "WITH CORNER LEFTWARDSzmANTICLOCKWISE TOP SEMICIRCLE ARROWzjCLOCKWISE TOP SEMICIRCLE ARROWzfNORTH WEST ARROW ",
    "TO LONG BARzdLEFTWARDS ARROW TO BAR OVER RIGHTWARDS ARROW TO BARzzbANTICLOCKWISE OPEN CIRCLE ARROWzgCLOCKWIS",
    "E OPEN CIRCLE ARROWzcLEFTWARDS HARPOON WITH BARB UPWARDShDOWNWARDSzmUPWARDS HARPOON WITH BARB RIGHTWARDSkLEF",
    "TWARDSzkRIGHTWARDS HARPOON WITH BARB UPWARDShDOWNWARDSznDOWNWARDS HARPOON WITH BARB RIGHTWARDSkLEFTWARDSzmRI",
    "GHTWARDS ARROW OVER LEFTWARDS ARROWzmUPWARDS ARROW LEFTWARDS OF DOWNWARDS ARROWzrLEFTWARDS ARROW OVER RIGHTW",
    "ARDS ARROWzcPAIRED ARROWSxUPWARDS PAIRED ARROWSvRIGHTWARDS PAIRED ARROWSyDOWNWARDS PAIRED ARROWSxLEFTWARDS H",
    "ARPOON OVER RIGHTWARDS HARPOONzqRIGHTWARDS HARPOON OVER LEFTWARDS HARPOONzqLEFTWARDS DOUBLE ARROW WITH STROK",
    "Ezf RIGHT DOUBLE ARROW WITH STROKEzkRIGHTWARDS DOUBLE ARROW WITH STROKEzkLEFTWARDS DOUBLE ARROWwUPWARDS DOUB",
    "LE ARROWuRIGHTWARDS DOUBLE ARROWxDOWNWARDS DOUBLE ARROWwLEFT RIGHT DOUBLE ARROWxUP DOWN DOUBLE ARROWuNORTH W",
    "EST DOUBLE ARROWrEAST DOUBLE ARROWxSOUTH EAST DOUBLE ARROWrWEST DOUBLE ARROWxLEFTWARDS TRIPLE ARROWwRIGHTWAR",
    "DS TRIPLE ARROWxLEFTWARDS SQUIGGLE ARROWyRIGHTWARDS SQUIGGLE ARROWzaUPWARDS ARROW WITH DOUBLE STROKEzhDOWNWA",
    "RDS ARROW WITH DOUBLE STROKEzjLEFTWARDS DASHED ARROWwUPWARDS DASHED ARROWuRIGHTWARDS DASHED ARROWxDOWNWARDS ",
    "DASHED ARROWwLEFTWARDS ARROW TO BARwRIGHTWARDS ARROW TO BARxLEFTWARDS WHITE ARROWvUPWARDS WHITE ARROWtRIGHTW",
    "ARDS WHITE ARROWwDOWNWARDS WHITE ARROWvUPWARDS WHITE ARROW FROM BARiON PEDESTALa WITH HORIZONTAL BARoVERTICA",
    "L BARzkDOUBLE ARROWa ON PEDESTALznRIGHTWARDS WHITE ARROW FROM WALLzhNORTH WEST ARROW TO CORNERzbSOUTH EAST A",
    "RROW TO CORNERzbUP DOWN WHITE ARROWtRIGHT ARROW WITH SMALL CIRCLEzeDOWNWARDS ARROW LEFTWARDS OF UPWARDS ARRO",
    "WzrTHREE RIGHTWARDS ARROWSxLEFTWARDS ARROW WITH VERTICAL STROKEzlRIGHTWARDS ARROW WITH VERTICAL STROKEzmLEFT",
    " RIGHT ARROW WITH VERTICAL STROKEziWARDS ARROW WITH DOUBLE VERTICAL STROKEzsRIGHTWARDS ARROW WITH DOUBLE VER",
    "TICAL STROKEztLEFT RIGHT ARROW WITH DOUBLE VERTICAL STROKEzpWARDS OPEN-HEADED ARROWzcRIGHTWARDS OPEN-HEADED ",
    "ARROWzdLEFT RIGHT OPEN-HEADED ARROWzdFOR ALLhCOMPLEMENTkPARTIAL DIFFERENTIALuTHERE EXISTSgDOES NOT EXISTuEMP",
    "TY SETjINCREMENTjNABLAfELEMENT OFkNOT AN ELEMENT OFrSMALL ELEMENT OFqCONTAINS AS MEMBERsDOES NOT CONTAIN AS ",
    "MEMBERzbSMALL CONTAINS AS MEMBERyEND OF PROOFmN-ARY PRODUCThCOPRODUCTjSUMMATIONpMINUS SIGNf-OR-PLUS SIGNsDOT",
    " PLUShIVISION SLASHoSET MINUSjASTERISK OPERATORrRING OPERATORnBULLET OPERATORpSQUARE ROOTlCUBE ROOTjFOURTH R",
    "OOTlPROPORTIONAL TOpINFINITYiRIGHT ANGLElANGLEfMEASURED ANGLEoSPHERICAL ANGLEpDIVIDESgOES NOT DIVIDEpPARALLE",
    "L TOlNOT PARALLEL TOpLOGICAL ANDdORkINTERSECTIONmUNIONfINTEGRALiDOUBLE INTEGRALpTRIPLE INTEGRALpCONTOUR INTE",
    "GRALqSURFACE INTEGRALqVOLUME INTEGRALpCLOCKWISE INTEGRALiCONTOUR INTEGRALzbANTICLOCKWISE CONTOUR INTEGRALzfT",
    "HEREFOREjBECAUSEhRATIOfPROPORTIONkDOT MINUSjEXCESSgGEOMETRIC PROPORTIONuHOMOTHETICkTILDE OPERATORoREVERSED T",
    "ILDEoINVERTED LAZY SpSINE WAVEjWREATH PRODUCToNOT TILDEjMINUS TILDElASYMPTOTICALLY EQUAL TOxNOT ASYMPTOTICAL",
    "LY EQUAL TOzcAPPROXIMATELY EQUAL TOiBUT NOT ACTUALLY EQUAL TOzoNEITHER APPROXIMATELY NOR ACTUALLY EQUAL TOzs",
    "ALMOST EQUAL TOpNOT ALMOST EQUAL TOtALMOST EQUAL OR EQUAL TOyTRIPLE TILDEmALL EQUAL TOmEQUIVALENT TOnGEOMETR",
    "ICALLY EQUIVALENT TOzcDIFFERENCE BETWEENsAPPROACHES THE LIMITuGEOMETRICALLY EQUAL TOwAPPROXIMATELY EQUAL TO ",
    "OR THE IMAGE OFznIMAGE OF OR APPROXIMATELY EQUAL TOzjCOLON EQUALSmEQUALS COLONmRING IN EQUAL TOlEQUAL TOnCOR",
    "RESPONDS TOoESTIMATESiQUIANGULAR TOoSTAR EQUALSlDELTA EQUAL TOoEQUAL TO BY DEFINITIONwMEASURED BYlQUESTIONED",
    " EQUAL TOtNOT EQUAL TOmIDENTICAL TOmNOT IDENTICAL TOqSTRICTLY EQUIVALENT TOwLESS-THAN OR EQUAL TOvGREATER-TH",
    "AN OR EQUAL TOyLESS-THAN OVER EQUAL TOxGREATER-THAN OVER EQUAL TOzbLESS-THAN BUT NOT EQUAL TOzbGREATER-THAN ",
    "BUT NOT EQUAL TOzeMUCH LESS-THANjGREATER-THANrBETWEENhNOT EQUIVALENT TOnLESS-THANjGREATER-THANpEITHER LESS-T",
    "HAN NOR EQUAL TOwGREATER-THAN NOR EQUAL TOziLESS-THAN OR EQUIVALENT TOzbGREATER-THAN OR EQUIVALENT TOzeNEITH",
    "ER LESS-THAN NOR EQUIVALENT TOzcGREATER-THAN NOR EQUIVALENT TOznLESS-THAN OR GREATER-THANzaGREATER-THAN OR L",
    "ESS-THANzaNEITHER LESS-THAN NOR GREATER-THANzbGREATER-THAN NOR LESS-THANzjPRECEDESiSUCCEEDSiPRECEDES OR EQUA",
    "L TOuSUCCEEDS OR EQUAL TOuPRECEDES OR EQUIVALENT TOzaSUCCEEDS OR EQUIVALENT TOzaDOES NOT PRECEDEhSUCCEEDqSUB",
    "SET OFhPERSET OFlNOT A SUBSET OFhPERSET OFrSUBSET OF OR EQUAL TOtPERSET OF OR EQUAL TOxNEITHER A SUBSET OF N",
    "OR EQUAL TOuPERSET OF NOR EQUAL TOzjSUBSET OF WITH NOT EQUAL TOzaPERSET OF WITH NOT EQUAL TOzeMULTISETa MULT",
    "IPLICATIONoUNIONoSQUARE IMAGE OFiORIGINAL OFlIMAGE OF OR EQUAL TOuORIGINAL OF OR EQUAL TOxCAPcUPkCIRCLED PLU",
    "SeMINUSfTIMESfDIVISION SLASHnOT OPERATORmRING OPERATORnASTERISK OPERATORrEQUALSgDASHmSQUARED PLUSeMINUSfTIME",
    "SfDOT OPERATORuRIGHT TACKkLEFT TACKjDOWN TACKjUP TACKhASSERTIONjMODELSgTRUEeFORCESgTRIPLE VERTICAL BAR RIGHT",
    " TURNSTILEzkDOUBLE VERTICAL BAR DOUBLE RIGHT TURNSTILEzpES NOT PROVEoNOT TRUEiDOES NOT FORCEoNEGATED DOUBLE ",
    "VERTICAL BAR DOUBLE RIGHT TURNSTILEzzaPRECEDES UNDER RELATIONxSUCCEEDS UNDER RELATIONxNORMAL SUBGROUP OFsCON",
    "TAINS AS NORMAL SUBGROUPzcNORMAL SUBGROUP OF OR EQUAL TOzfCONTAINS AS NORMAL SUBGROUP OR EQUAL TOzoORIGINAL ",
    "OFlIMAGE OFiMULTIMAPiHERMITIAN CONJUGATE MATRIXzbINTERCALATElXORdNANDdORdRIGHT ANGLE WITH ARCoTRIANGLEoN-ARY",
    " LOGICAL ANDdORkINTERSECTIONmUNIONlDIAMOND OPERATORpOT OPERATORmSTAR OPERATORnDIVISION TIMESoBOWTIEgLEFT NOR",
    "MAL FACTOR SEMIDIRECT PRODUCTzmRIGHT NORMAL FACTOR SEMIDIRECT PRODUCTznLEFT SEMIDIRECT PRODUCTxRIGHT SEMIDIR",
    "ECT PRODUCTxEVERSED TILDE EQUALSvCURLY LOGICAL ORcANDrDOUBLE SUBSETePERSETiINTERSECTIONmUNIONmPITCHFORKjEQUA",
    "L AND PARALLEL TOvLESS-THAN WITH DOTsGREATER-THAN WITH DOTvVERY MUCH LESS-THANjGREATER-THANwLESS-THAN EQUAL ",
    "TO OR GREATER-THANzjGREATER-THAN EQUAL TO OR LESS-THANzjEQUAL TO OR LESS-THANjGREATER-THANmPRECEDESiSUCCEEDS",
    "uDOES NOT PRECEDE OR EQUALqSUCCEED OR EQUALzaNOT SQUARE IMAGE OF OR EQUAL TOuORIGINAL OF OR EQUAL TOzjSQUARE",
    " IMAGE OF OR NOT EQUAL TOyORIGINAL OF OR NOT EQUAL TOzjLESS-THAN BUT NOT EQUIVALENT TOzgGREATER-THAN BUT NOT",
    " EQUIVALENT TOzjPRECEDES BUT NOT EQUIVALENT TOzfSUCCEEDS BUT NOT EQUIVALENT TOzfNOT NORMAL SUBGROUP OFwDOES ",
    "NOT CONTAIN AS NORMAL SUBGROUPzkNOT NORMAL SUBGROUP OF OR EQUAL TOzjDOES NOT CONTAIN AS NORMAL SUBGROUP OR E",
    "QUALztVERTICAL ELLIPSISrMIDLINE HORIZONTAL ELLIPSISzcUP RIGHT DIAGONAL ELLIPSISzbDOWN RIGHT DIAGONAL ELLIPSI",
    "SzdELEMENT OF WITH LONG HORIZONTAL STROKEwVERTICAL BAR AT END OF HORIZONTAL STROKEzzgSMALL ELEMENT OF WITH V",
    "ERTICAL BAR AT END OF HORIZONTAL STROKEzzmELEMENT OF WITH DOT ABOVEjOVERBARxSMALL ELEMENT OF WITH OVERBARzeE",
    "LEMENT OF WITH UNDERBARiTWO HORIZONTAL STROKESznCONTAINS WITH LONG HORIZONTAL STROKEwVERTICAL BAR AT END OF ",
    "HORIZONTAL STROKEzzeSMALL CONTAINS WITH VERTICAL BAR AT END OF HORIZONTAL STROKEzzkCONTAINS WITH OVERBARvSMA",
    "LL CONTAINS WITH OVERBARzcZ NOTATION BAG MEMBERSHIPzaDIAMETER SIGNnELECTRIC ARROWoHOUSEfUP ARROWHEADmDOWN AR",
    "ROWHEADoPROJECTIVEjERSPECTIVElWAVY LINEjLEFT CEILINGmRIGHT CEILINGnLEFT FLOORkRIGHT FLOORlBOTTOM RIGHT CROPk",
    "LEFT CROPqTOP RIGHT CROPkLEFT CROPnREVERSED NOT SIGNrSQUARE LOZENGEoARCdSEGMENTfCTORgTELEPHONE RECORDERsPOSI",
    "TION INDICATORsVIEWDATA SQUAREpPLACE OF INTEREST SIGNwTURNED NOT SIGNpWATCHfHOURGLASSjTOP LEFT CORNERlRIGHT ",
    "CORNERqBOTTOM LEFT CORNERlRIGHT CORNERtTOP HALF INTEGRALrBOTTOM HALF INTEGRALuFROWNfSMILEfUP ARROWHEAD BETWE",
    "EN TWO HORIZONTAL BARSzpOPTION KEYkERASE TO THE RIGHTsX IN A RECTANGLE BOXuKEYBOARDiLEFT-POINTING ANGLE BRAC",
    "KETzcRIGHT-POINTING ANGLE BRACKETzdERASE TO THE LEFTrBENZENE RINGmCYLINDRICITYmALL AROUND-PROFILEsSYMMETRYiT",
    "OTAL RUNOUTmDIMENSION ORIGINqCONICAL TAPERnSLOPEfCOUNTERBOREeSINKlAPL FUNCTIONAL SYMBOL I-BEAMgSQUISH QUADlQ",
    "UAD EQUALfDIVIDEeAMONDhJOTdCIRCLElCIRCLE STILEfJOTkSLASH BARjBACKSLASH BARnQUAD SLASHfBACKSLASHjLESS-THANjGR",
    "EATER-THANrLEFTWARDS VANEoRIGHTWARDS VANEpQUAD LEFTWARDS ARROWpRIGHTWARDS ARROWvCIRCLE BACKSLASHqDOWN TACK U",
    "NDERBARrELTA STILElQUAD DOWN CARETjELTAkDOWN TACK JOTnUPWARDS VANEmQUAD UPWARDS ARROWsUP TACK OVERBARpDEL ST",
    "ILEjQUAD UP CARETiDELiUP TACK JOTlDOWNWARDS VANEoQUAD DOWNWARDS ARROWsOTE UNDERBARoDELTA UNDERBARnIAMOND UND",
    "ERBARqJOT UNDERBARmCIRCLE UNDERBARpUP SHOE JOTlQUOTE QUADkCIRCLE STARlQUAD COLONkUP TACK DIAERESISrDEL DIAER",
    "ESISnSTAR DIAERESISoJOT DIAERESISnCIRCLE DIAERESISqDOWN SHOE STILEpLEFT SHOE STILEpTILDE DIAERESISpGREATER-T",
    "HAN DIAERESISwCOMMA BARjDEL TILDEjZILDEfSTILE TILDEkEMICOLON UNDERBARsQUAD NOT EQUALjQUESTIONnDOWN CARET TIL",
    "DEqUP CARET TILDEoIOTAeRHOdOMEGAfALPHA UNDERBARoEPSILON UNDERBARqIOTA UNDERBARnOMEGA UNDERBARoALPHAzcNOT CHE",
    "CK MARKoRIGHT ANGLE WITH DOWNWARDS ZIGZAG ARROWzoSHOULDERED OPEN BOXtBELL SYMBOLlVERTICAL LINE WITH MIDDLE D",
    "OTzeINSERTION SYMBOLqCONTINUOUS UNDERLINE SYMBOLzcDISCONTINUOUS UNDERLINE SYMBOLzfEMPHASIS SYMBOLpCOMPOSITIO",
    "N SYMBOLsWHITE SQUARE WITH CENTRE VERTICAL LINEznENTER SYMBOLmALTERNATIVE KEY SYMBOLwHELM SYMBOLlCIRCLED HOR",
    "IZONTAL BAR WITH NOTCHzaTRIANGLE DOWNvBROKEN CIRCLE WITH NORTHWEST ARROWzjUNDO SYMBOLlMONOSTABLE SYMBOLrHYST",
    "ERESIS SYMBOLrOPEN-CIRCUIT-OUTPUT H-TYPE SYMBOLnL-TYPE SYMBOLziPASSIVE-PULL-DOWN-OUTPUT SYMBOLsUP-OUTPUT SYM",
    "BOLzeDIRECT CURRENT SYMBOL FORM TWOzfSOFTWARE-FUNCTION SYMBOLyAPL FUNCTIONAL SYMBOL QUADzbDECIMAL SEPARATOR ",
    "KEY SYMBOLzdPREVIOUS PAGEnNEXT PAGEjPRINT SCREEN SYMBOLtCLEAR SCREEN SYMBOLtLEFT PARENTHESIS UPPER HOOKkEXTE",
    "NSIONjLOWER HOOKzcRIGHT PARENTHESIS UPPER HOOKkEXTENSIONjLOWER HOOKzdLEFT SQUARE BRACKET UPPER CORNERmEXTENS",
    "IONjLOWER CORNERzhRIGHT SQUARE BRACKET UPPER CORNERmEXTENSIONjLOWER CORNERziLEFT CURLY BRACKET UPPER HOOKkMI",
    "DDLE PIECEmLOWER HOOKzeCURLY BRACKET EXTENSIONxRIGHT CURLY BRACKET UPPER HOOKkMIDDLE PIECEmLOWER HOOKzfINTEG",
    "RAL EXTENSIONsHORIZONTAL LINE EXTENSIONzaUPPER LEFT OR LOWER RIGHT CURLY BRACKET SECTIONzqRIGHT OR LOWER LEF",
    "T CURLY BRACKET SECTIONzwSUMMATION TOPdBOTTOMqTOP SQUARE BRACKETsBOTTOM SQUARE BRACKETa OVER TOP SQUARE BRAC",
    "KETzuRADICAL SYMBOL BOTTOMvLEFT VERTICAL BOX LINEwRIGHT VERTICAL BOX LINExHORIZONTAL SCAN LINE-1b3b7b9wDENTI",
    "STRY SYMBOL LIGHT VERTICAL AND TOP RIGHTjBOTTOM RIGHTqWITH CIRCLEuDOWN AND HORIZONTAL WITH CIRCLEzgUP AND HO",
    "RIZONTAL WITH CIRCLEzeVERTICAL WITH TRIANGLEwDOWN AND HORIZONTAL WITH TRIANGLEziUP AND HORIZONTAL WITH TRIAN",
    "GLEzgVERTICAL AND WAVErDOWN AND HORIZONTAL WITH WAVEzeUP AND HORIZONTAL WITH WAVEzcDOWN AND HORIZONTALtUP AN",
    "D HORIZONTALrVERTICAL AND TOP LEFTiBOTTOM LEFTzwSQUARE FOOTlRETURN SYMBOLnEJECT SYMBOLmVERTICAL LINE EXTENSI",
    "ONxMETRICAL BREVEfLONG OVER SHORTpSHORT OVER LONGpLONG OVER TWO SHORTSuTWO SHORTS OVER LONGjJOINEDqRISEMEgET",
    "RASEMEjPENTASEMEsEARTH GROUNDmFUSEeTOP PARENTHESISpBOTTOM PARENTHESISsTOP CURLY BRACKETrBOTTOM CURLY BRACKET",
    "uTOP TORTOISE SHELL BRACKETzbBOTTOM TORTOISE SHELL BRACKETzeWHITE TRAPEZIUMpBENZENE RING WITH CIRCLEySTRAIGH",
    "TNESSmFLATNESSiAC CURRENTkELECTRICAL INTERSECTIONxDECIMAL EXPONENT SYMBOLxBLACK RIGHT-POINTING DOUBLE TRIANG",
    "LEzfLEFT-POINTING DOUBLE TRIANGLEzeUP-POINTING DOUBLE TRIANGLEzcDOWN-POINTING DOUBLE TRIANGLEzeRIGHT-POINTIN",
    "G DOUBLE TRIANGLE WITH VERTICAL BARzxLEFT-POINTING DOUBLE TRIANGLE WITH VERTICAL BARzwRIGHT-POINTING TRIANGL",
    "E WITH DOUBLE VERTICAL BARzzeALARM CLOCKlSTOPWATCHjTIMER CLOCKlHOURGLASS WITH FLOWING SANDzcBLACK MEDIUM LEF",
    "T-POINTING TRIANGLEwRIGHT-POINTING TRIANGLExUP-POINTING TRIANGLEuDOWN-POINTING TRIANGLEzkDOUBLE VERTICAL BAR",
    "tBLACK SQUARE FOR STOPpCIRCLE FOR RECORDxPOWER SYMBOLgON-OFF SYMBOLl SYMBOLjSLEEP SYMBOLsOBSERVER EYE SYMBOL",
    "tSYMBOL FOR NULLeSTART OF HEADINGhTEXTnEND OF TEXTdRANSMISSIONrQUIRYhACKNOWLEDGElBELLdACKSPACEjHORIZONTAL TA",
    "BULATIONvLINE FEEDjVERTICAL TABULATIONtFORM FEEDjCARRIAGE RETURNpSHIFT OUTdINiDATA LINK ESCAPEpEVICE CONTROL",
    " ONEdTWOcHREEfFOURtNEGATIVE ACKNOWLEDGEuSYNCHRONOUS IDLEqEND OF TRANSMISSION BLOCKzaCANCELgEND OF MEDIUMnSUB",
    "STITUTEkESCAPEgFILE SEPARATORoGROUP SEPARATORpRECORD SEPARATORqUNIT SEPARATORoSPACEfDELETErBLANK SYMBOLmOPEN",
    " BOXiSYMBOL FOR NEWLINEhDELETE FORM TWOpSUBSTITUTE FORM TWO"]⟩,
  ⟨0x2440, [
    "aOCR HOOKeCHAIRfFORKeINVERTED FORKnBELT BUCKLEkOW TIEgRANCH BANK IDENTIFICATIONzbAMOUNT OF CHECKpDASHeCUSTOM",
    "ER ACCOUNT NUMBERxDOUBLE BACKSLASH"]⟩,
  ⟨0x2460, [
    "aCIRCLED DIGIT ONEdTWOcHREEfFOURdIVEeSIXcEVENfEIGHTfNINEkNUMBER TENdELEVENgTWELVEfHIRTEENiFOURTEENhIFTEENhSI",
    "XTEENgEVENTEENjEIGHTEENiNINETEENiTWENTYvPARENTHESIZED DIGIT ONEdTWOcHREEfFOURdIVEeSIXcEVENfEIGHTfNINEkNUMBER",
    " TENdELEVENgTWELVEfHIRTEENiFOURTEENhIFTEENhSIXTEENgEVENTEENjEIGHTEENiNINETEENiTWENTYzcDIGIT ONE FULL STOPnTW",
    "O FULL STOPmHREE FULL STOPpFOUR FULL STOPnIVE FULL STOPoSIX FULL STOPmEVEN FULL STOPpEIGHT FULL STOPpNINE FU",
    "LL STOPuNUMBER TEN FULL STOPnELEVEN FULL STOPqTWELVE FULL STOPpHIRTEEN FULL STOPsFOURTEEN FULL STOPrIFTEEN F",
    "ULL STOPrSIXTEEN FULL STOPqEVENTEEN FULL STOPtEIGHTEEN FULL STOPsNINETEEN FULL STOPsTWENTY FULL STOPxPARENTH",
    "ESIZED LATIN SMALL LETTER AbBbCbDbEbFbGbHbIbJbKbLbMbNbObPbQbRbSbTbUbVbWbXbYbZzjCIRCLED LATIN CAPITAL LETTER ",
    "AbBbCbDbEbFbGbHbIbJbKbLbMbNbObPbQbRbSbTbUbVbWbXbYbZqSMALL LETTER AbBbCbDbEbFbGbHbIbJbKbLbMbNbObPbQbRbSbTbUbV",
    "bWbXbYbZuDIGIT ZEROsNEGATIVE CIRCLED NUMBER ELEVENgTWELVEfHIRTEENiFOURTEENhIFTEENhSIXTEENgEVENTEENjEIGHTEENi",
    "NINETEENiTWENTYzfDOUBLE CIRCLED DIGIT ONEdTWOcHREEfFOURdIVEeSIXcEVENfEIGHTfNINEkNUMBER TENzaNEGATIVE CIRCLED",
    " DIGIT ZEROzcBOX DRAWINGS LIGHT HORIZONTALqHEAVY HORIZONTALqLIGHT VERTICALoHEAVY VERTICALoLIGHT TRIPLE DASH ",
    "HORIZONTALzdHEAVY TRIPLE DASH HORIZONTALzdLIGHT TRIPLE DASH VERTICALzbHEAVY TRIPLE DASH VERTICALzbLIGHT QUAD",
    "RUPLE DASH HORIZONTALzgHEAVY QUADRUPLE DASH HORIZONTALzgLIGHT QUADRUPLE DASH VERTICALzeHEAVY QUADRUPLE DASH ",
    "VERTICALzeLIGHT DOWN AND RIGHTuDOWN LIGHT AND RIGHT HEAVYvHEAVY AND RIGHT LIGHTzbHEAVY DOWN AND RIGHTuLIGHT ",
    "DOWN AND LEFTtDOWN LIGHT AND LEFT HEAVYuHEAVY AND LEFT LIGHTzaHEAVY DOWN AND LEFTtLIGHT UP AND RIGHTsUP LIGH",
    "T AND RIGHT HEAVYvHEAVY AND RIGHT LIGHTyHEAVY UP AND RIGHTsLIGHT UP AND LEFTrUP LIGHT AND LEFT HEAVYuHEAVY A",
    "ND LEFT LIGHTxHEAVY UP AND LEFTrLIGHT VERTICAL AND RIGHTyVERTICAL LIGHT AND RIGHT HEAVYzfUP HEAVY AND RIGHT ",
    "DOWN LIGHTzeDOWN HEAVY AND RIGHT UP LIGHTzeVERTICAL HEAVY AND RIGHT LIGHTzfDOWN LIGHT AND RIGHT UP HEAVYzeUP",
    " LIGHT AND RIGHT DOWN HEAVYzeHEAVY VERTICAL AND RIGHTyLIGHT VERTICAL AND LEFTxVERTICAL LIGHT AND LEFT HEAVYz",
    "eUP HEAVY AND LEFT DOWN LIGHTzdDOWN HEAVY AND LEFT UP LIGHTzdVERTICAL HEAVY AND LEFT LIGHTzeDOWN LIGHT AND L",
    "EFT UP HEAVYzdUP LIGHT AND LEFT DOWN HEAVYzdHEAVY VERTICAL AND LEFTxLIGHT DOWN AND HORIZONTALyEFT HEAVY AND ",
    "RIGHT DOWN LIGHTzgRIGHT HEAVY AND LEFT DOWN LIGHTzgDOWN LIGHT AND HORIZONTAL HEAVYzbHEAVY AND HORIZONTAL LIG",
    "HTzgRIGHT LIGHT AND LEFT DOWN HEAVYzgLEFT LIGHT AND RIGHT DOWN HEAVYzgHEAVY DOWN AND HORIZONTALzaLIGHT UP AN",
    "D HORIZONTALwEFT HEAVY AND RIGHT UP LIGHTzeRIGHT HEAVY AND LEFT UP LIGHTzeUP LIGHT AND HORIZONTAL HEAVYzbHEA",
    "VY AND HORIZONTAL LIGHTzeRIGHT LIGHT AND LEFT UP HEAVYzeLEFT LIGHT AND RIGHT UP HEAVYzeHEAVY UP AND HORIZONT",
    "ALxLIGHT VERTICAL AND HORIZONTALzdEFT HEAVY AND RIGHT VERTICAL LIGHTzkRIGHT HEAVY AND LEFT VERTICAL LIGHTzkV",
    "ERTICAL LIGHT AND HORIZONTAL HEAVYzkUP HEAVY AND DOWN HORIZONTAL LIGHTzjDOWN HEAVY AND UP HORIZONTAL LIGHTzj",
    "VERTICAL HEAVY AND HORIZONTAL LIGHTzkLEFT UP HEAVY AND RIGHT DOWN LIGHTzjRIGHT UP HEAVY AND LEFT DOWN LIGHTz",
    "jLEFT DOWN HEAVY AND RIGHT UP LIGHTzjRIGHT DOWN HEAVY AND LEFT UP LIGHTzjDOWN LIGHT AND UP HORIZONTAL HEAVYz",
    "jUP LIGHT AND DOWN HORIZONTAL HEAVYzjRIGHT LIGHT AND LEFT VERTICAL HEAVYzkLEFT LIGHT AND RIGHT VERTICAL HEAV",
    "YzkHEAVY VERTICAL AND HORIZONTALzeLIGHT DOUBLE DASH HORIZONTALzdHEAVY DOUBLE DASH HORIZONTALzdLIGHT DOUBLE D",
    "ASH VERTICALzbHEAVY DOUBLE DASH VERTICALzbDOUBLE HORIZONTALkVERTICALnWN SINGLE AND RIGHT DOUBLExDOUBLE AND R",
    "IGHT SINGLEzbUBLE DOWN AND RIGHTtWN SINGLE AND LEFT DOUBLEwDOUBLE AND LEFT SINGLEzaUBLE DOWN AND LEFTuUP SIN",
    "GLE AND RIGHT DOUBLExDOUBLE AND RIGHT SINGLEzbDOUBLE UP AND RIGHTtUP SINGLE AND LEFT DOUBLEwDOUBLE AND LEFT ",
    "SINGLEzaDOUBLE UP AND LEFTsVERTICAL SINGLE AND RIGHT DOUBLExDOUBLE AND RIGHT SINGLEzhDOUBLE VERTICAL AND RIG",
    "HTzaVERTICAL SINGLE AND LEFT DOUBLEwDOUBLE AND LEFT SINGLEzgDOUBLE VERTICAL AND LEFTwWN SINGLE AND HORIZONTA",
    "L DOUBLEzdDOUBLE AND HORIZONTAL SINGLEzgUBLE DOWN AND HORIZONTALzbUP SINGLE AND HORIZONTAL DOUBLEzdDOUBLE AN",
    "D HORIZONTAL SINGLEzgDOUBLE UP AND HORIZONTALyVERTICAL SINGLE AND HORIZONTAL DOUBLEzdDOUBLE AND HORIZONTAL S",
    "INGLEzmDOUBLE VERTICAL AND HORIZONTALzfLIGHT ARC DOWN AND RIGHTfLEFTnUP AND LEFTeRIGHTqDIAGONAL UPPER RIGHT ",
    "TO LOWER LEFTtLEFT TO LOWER RIGHTzaCROSSoLEFTeUPcRIGHTfDOWNkHEAVY LEFTeUPcRIGHTfDOWNkLIGHT LEFT AND HEAVY RI",
    "GHTuUP AND HEAVY DOWNxHEAVY LEFT AND LIGHT RIGHTuUP AND LIGHT DOWNzlUPPER HALF BLOCKqLOWER ONE EIGHTH BLOCKm",
    "QUARTER BLOCKrTHREE EIGHTHS BLOCKtHALF BLOCKkFIVE EIGHTHS BLOCKsTHREE QUARTERS BLOCKuSEVEN EIGHTHS BLOCKzaFU",
    "LL BLOCKkLEFT SEVEN EIGHTHS BLOCKtTHREE QUARTERS BLOCKuFIVE EIGHTHS BLOCKsHALF BLOCKkTHREE EIGHTHS BLOCKtONE",
    " QUARTER BLOCKnEIGHTH BLOCKvRIGHT HALF BLOCKqLIGHT SHADElMEDIUM SHADEmDARK SHADEkUPPER ONE EIGHTH BLOCKwRIGH",
    "T ONE EIGHTH BLOCKwQUADRANT LOWER LEFTeRIGHTlUPPER LEFTa AND LOWER LEFT AND LOWER RIGHTuRIGHTlUPPER RIGHT AN",
    "D LOWER LEFTeRIGHTzlRIGHTa AND LOWER LEFTa AND LOWER RIGHTzzbBLACK SQUAREmWHITE SQUAREa WITH ROUNDED CORNERS",
    "uCONTAINING BLACK SMALL SQUAREzrSQUARE WITH HORIZONTAL FILLpVERTICAL FILLnORTHOGONAL CROSSHATCH FILLzbUPPER ",
    "LEFT TO LOWER RIGHT FILLyRIGHT TO LOWER LEFT FILLzfDIAGONAL CROSSHATCH FILLzlBLACK SMALL SQUAREsWHITE SMALL ",
    "SQUAREsBLACK RECTANGLEpWHITE RECTANGLEpBLACK VERTICAL RECTANGLEyWHITE VERTICAL RECTANGLEyBLACK PARALLELOGRAM",
    "tWHITE PARALLELOGRAMtBLACK UP-POINTING TRIANGLEzbWHITE UP-POINTING TRIANGLEzbBLACK UP-POINTING SMALL TRIANGL",
    "EzhWHITE UP-POINTING SMALL TRIANGLEzhBLACK RIGHT-POINTING TRIANGLEzeWHITE RIGHT-POINTING TRIANGLEzeBLACK RIG",
    "HT-POINTING SMALL TRIANGLEzkWHITE RIGHT-POINTING SMALL TRIANGLEzkBLACK RIGHT-POINTING POINTERzdWHITE RIGHT-P",
    "OINTING POINTERzdBLACK DOWN-POINTING TRIANGLEzdWHITE DOWN-POINTING TRIANGLEzdBLACK DOWN-POINTING SMALL TRIAN",
    "GLEzjWHITE DOWN-POINTING SMALL TRIANGLEzjBLACK LEFT-POINTING TRIANGLEzdWHITE LEFT-POINTING TRIANGLEzdBLACK L",
    "EFT-POINTING SMALL TRIANGLEzjWHITE LEFT-POINTING SMALL TRIANGLEzjBLACK LEFT-POINTING POINTERzcWHITE LEFT-POI",
    "NTING POINTERzcBLACK DIAMONDnWHITE DIAMONDa CONTAINING BLACK SMALL DIAMONDztFISHEYEhLOZENGEhWHITE CIRCLEmDOT",
    "TED CIRCLEnCIRCLE WITH VERTICAL FILLzaBULLSEYEhLACK CIRCLEmCIRCLE WITH LEFT HALF BLACKpRIGHT HALF BLACKqLOWE",
    "R HALF BLACKqUPPER HALF BLACKkRIGHT QUADRANT BLACKzbALL BUT UPPER LEFT QUADRANT BLACKzuLEFT HALF BLACK CIRCL",
    "EwRIGHT HALF BLACK CIRCLExINVERSE BULLETgWHITE CIRCLEuUPPER HALF INVERSE WHITE CIRCLEzgLOWER HALF INVERSE WH",
    "ITE CIRCLEzgUPPER LEFT QUADRANT CIRCULAR ARCzbRIGHT QUADRANT CIRCULAR ARCziLOWER RIGHT QUADRANT CIRCULAR ARC",
    "zcLEFT QUADRANT CIRCULAR ARCzhUPPER HALF CIRCLErLOWER HALF CIRCLErBLACK LOWER RIGHT TRIANGLEoLEFT TRIANGLEtU",
    "PPER LEFT TRIANGLEnRIGHT TRIANGLEzbWHITE BULLETmSQUARE WITH LEFT HALF BLACKpRIGHT HALF BLACKqUPPER LEFT DIAG",
    "ONAL HALF BLACKzfLOWER RIGHT DIAGONAL HALF BLACKzsWHITE SQUARE WITH VERTICAL BISECTING LINEzkUP-POINTING TRI",
    "ANGLE WITH DOTzkUP-POINTING TRIANGLE WITH LEFT HALF BLACKpRIGHT HALF BLACKzrLARGE CIRCLEmWHITE SQUARE WITH U",
    "PPER LEFT QUADRANTtLOWER LEFT QUADRANTnRIGHT QUADRANTuUPPER RIGHT QUADRANTzhCIRCLE WITH UPPER LEFT QUADRANTt",
    "LOWER LEFT QUADRANTnRIGHT QUADRANTuUPPER RIGHT QUADRANTznUPPER LEFT TRIANGLEnRIGHT TRIANGLEuLOWER LEFT TRIAN",
    "GLEtWHITE MEDIUM SQUAREtBLACK MEDIUM SQUAREtWHITE MEDIUM SMALL SQUAREzaBLACK MEDIUM SMALL SQUAREzaLOWER RIGH",
    "T TRIANGLEuBLACK SUN WITH RAYStCLOUDfUMBRELLAiSNOWMANhCOMETfBLACK STARkWHITE STARkLIGHTNINGjTHUNDERSTORMmSUN",
    "dASCENDING NODEoDESCENDING NODEpCONJUNCTIONlOPPOSITIONkBLACK TELEPHONEpWHITE TELEPHONEpBALLOT BOXa WITH CHEC",
    "KfXrSALTIREhUMBRELLA WITH RAIN DROPSyHOT BEVERAGEmWHITE SHOGI PIECErBLACK SHOGI PIECErSHAMROCKiREVERSED ROTA",
    "TED FLORAL HEART BULLETzlBLACK LEFT POINTING INDEXtRIGHT POINTING INDEXzbWHITE LEFT POINTING INDEXtUP POINTI",
    "NG INDEXrRIGHT POINTING INDEXuDOWN POINTING INDEXzaSKULL AND CROSSBONESuCAUTION SIGNmRADIOACTIVE SIGNqBIOHAZ",
    "ARD SIGNoCADUCEUSiANKHeORTHODOX CROSSoCHI RHOgROSS OF LORRAINEiJERUSALEMsSTAR AND CRESCENTrFARSI SYMBOLmADI ",
    "SHAKTIkHAMMER AND SICKLErPEACE SYMBOLmYIN YANGiTRIGRAM FOR HEAVENgLAKEeFIREeTHUNDERhWINDdATERfMOUNTAINiEARTH",
    "rWHEEL OF DHARMAnITE FROWNING FACEnSMILING FACEsBLACK SMILING FACEsWHITE SUN WITH RAYStFIRST QUARTER MOONsLA",
    "ST QUARTER MOONrMERCURYhFEMALE SIGNlEARTHfMALE SIGNjJUPITERhSATURNgURANUSgNEPTUNEhPLUTOfARIESfTAURUSgGEMINIg",
    "CANCERgLEOdVIRGOfLIBRAfSCORPIUShAGITTARIUSlCAPRICORNjAQUARIUSiPISCESgWHITE CHESS KINGeQUEENfROOKeBISHOPgKNIG",
    "HTgPAWNqBLACK CHESS KINGeQUEENfROOKeBISHOPgKNIGHTgPAWNkSPADE SUITqWHITE HEART SUITkDIAMOND SUITsBLACK CLUB S",
    "UITpWHITE SPADE SUITqBLACK HEART SUITkDIAMOND SUITsWHITE CLUB SUITpHOT SPRINGSlQUARTER NOTEmEIGHTH NOTElBEAM",
    "ED EIGHTH NOTESmSIXTEENTH NOTESwMUSIC FLAT SIGNjNATURAL SIGNmSHARP SIGNqWEST SYRIAC CROSSrEAST SYRIAC CROSSr",
    "UNIVERSAL RECYCLING SYMBOLzbRECYCLING SYMBOL FOR TYPE-1 PLASTICSk2 PLASTICSk3 PLASTICSk4 PLASTICSk5 PLASTICS",
    "k6 PLASTICSk7 PLASTICSpGENERIC MATERIALSznBLACK UNIVERSAL RECYCLING SYMBOLzhRECYCLED PAPER SYMBOLvPARTIALLY-",
    "RECYCLED PAPER SYMBOLzfERMANENT PAPER SIGNuWHEELCHAIR SYMBOLrDIE FACE-1b2b3b4b5b6kWHITE CIRCLE WITH DOT RIGH",
    "TjTWO DOTSzbBLACK CIRCLE WITH WHITE DOT RIGHTpTWO WHITE DOTSzhMONOGRAM FOR YANGdINqDIGRAM FOR GREATER YANGmL",
    "ESSER YINcANGlGREATER YINwWHITE FLAGkBLACK FLAGkHAMMER AND PICKpANCHORgCROSSED SWORDSoSTAFF OF AESCULAPIUStC",
    "ALESgALEMBIChFLOWERgGEAReSTAFF OF HERMESpATOM SYMBOLlFLEUR-DE-LISmOUTLINED WHITE STARtTHREE LINES CONVERGING",
    " RIGHTfLEFTzcWARNING SIGNmHIGH VOLTAGE SIGNrDOUBLED FEMALE SIGNlMALE SIGNrINTERLOCKED FEMALE AND MALE SIGNzh",
    "MALE AND FEMALE SIGNpWITH STROKE SIGNeAND MALE AND FEMALE SIGNzqVERTICAL MALE WITH STROKE SIGNzfHORIZONTAL M",
    "ALE WITH STROKE SIGNzhMEDIUM WHITE CIRCLEmBLACK CIRCLEmSMALL WHITE CIRCLEyARRIAGE SYMBOLpDIVORCE SYMBOLoUNMA",
    "RRIED PARTNERSHIP SYMBOLzdCOFFINgFUNERAL URNlNEUTERgCERESfPALLASgJUNOeVESTAfCHIRONgBLACK MOON LILITHrSEXTILE",
    "fMISEXTILElQUINCUNXiSESQUIQUADRATEnOCCER BALLlBASEBALLiSQUARED KEYlWHITE DRAUGHTS MANdKINGtBLACK DRAUGHTS MA",
    "NdKINGtSNOWMAN WITHOUT SNOWtUN BEHIND CLOUDqRAINeBLACK SNOWMANnTHUNDER CLOUD AND RAINvURNED WHITE SHOGI PIEC",
    "ErBLACK SHOGI PIECEyWHITE DIAMOND IN SQUARExCROSSING LANESoDISABLED CARmOPHIUCHUSjPICKeCAR SLIDINGlHELMET WI",
    "TH WHITE CROSSxCIRCLED CROSSING LANESvHAINSgNO ENTRYiALTERNATE ONE-WAY LEFT WAY TRAFFICzjBLACK TWO-WAY LEFT ",
    "WAY TRAFFICzfWHITE TWO-WAY LEFT WAY TRAFFICzfBLACK LEFT LANE MERGEvWHITE LEFT LANE MERGEvDRIVE SLOW SIGNpHEA",
    "VY WHITE DOWN-POINTING TRIANGLEzjLEFT CLOSED ENTRYrSQUARED SALTIREpFALLING DIAGONAL IN WHITE CIRCLE IN BLACK",
    " SQUAREzxBLACK TRUCKlRESTRICTED LEFT ENTRY-1b2xASTRONOMICAL SYMBOL FOR URANUSzfHEAVY CIRCLE WITH STROKE AND ",
    "TWO DOTS ABOVEzsPENTAGRAMjRIGHT-HANDED INTERLACED PENTAGRAMziLEFT-HANDED INTERLACED PENTAGRAMzhINVERTED PENT",
    "AGRAMsBLACK CROSS ON SHIELDvSHINTO SHRINEnCHURCHfASTLEgHISTORIC SITEnGEAR WITHOUT HUBh HANDLESrMAP SYMBOL FO",
    "R LIGHTHOUSEyOUNTAINiUMBRELLA ON GROUNDsFOUNTAINhLAG IN HOLElERRYfSAILBOAThQUARE FOUR CORNERSsKIERfICE SKATE",
    "jPERSON WITH BALLqTENTeJAPANESE BANK SYMBOLuHEADSTONE GRAVEYARD SYMBOLzbFUEL PUMPjCUP ON BLACK SQUAREtWHITE ",
    "FLAG WITH HORIZONTAL MIDDLE BLACK STRIPEzvBLACK SAFETY SCISSORSvUPPER BLADE SCISSORSuBLACK SCISSORSoLOWER BL",
    "ADE SCISSORSuWHITE SCISSORSiHEAVY CHECK MARKwTELEPHONE LOCATION SIGNwAPE DRIVEkAIRPLANEiENVELOPEiRAISED FIST",
    "eHANDlVICTORY HANDmWRITING HANDmLOWER RIGHT PENCILsPENCILgUPPER RIGHT PENCILsWHITE NIBjBLACK NIBjCHECK MARKk",
    "HEAVY CHECK MARKqMULTIPLICATION XqHEAVY MULTIPLICATION XwBALLOT XiHEAVY BALLOT XoOUTLINED GREEK CROSSuHEAVY ",
    "GREEK CROSSrOPEN CENTRE CROSSrHEAVY OPEN CENTRE CROSSxLATIN CROSSlSHADOWED WHITE LATIN CROSSzbOUTLINED LATIN",
    " CROSSuMALTESE CROSSnSTAR OF DAVIDnFOUR TEARDROP-SPOKED ASTERISKyBALLOON-SPOKED ASTERISKzdHEAVY FOUR BALLOON",
    "-SPOKED ASTERISKzjFOUR CLUB-SPOKED ASTERISKzaBLACK FOUR POINTED STARxWHITE FOUR POINTED STARxSPARKLEShTRESS ",
    "OUTLINED WHITE STARzbCIRCLED WHITE STARsOPEN CENTRE BLACK STARwBLACK CENTRE WHITE STARxOUTLINED BLACK STARtH",
    "EAVY OUTLINED BLACK STARzaPINWHEEL STARnSHADOWED WHITE STARtHEAVY ASTERISKoOPEN CENTRE ASTERISKuEIGHT SPOKED",
    " ASTERISKpPOINTED BLACK STARkPINWHEEL STARzcSIX POINTED BLACK STARwEIGHT POINTED RECTILINEAR BLACK STARzlHEA",
    "VY EIGHT POINTED RECTILINEAR BLACK STARzrTWELVE POINTED BLACK STARzaSIXTEEN POINTED ASTERISKyTEARDROP-SPOKED",
    " ASTERISKyOPEN CENTRE TEARDROP-SPOKED ASTERISKzlHEAVY TEARDROP-SPOKED ASTERISKzfSIX PETALLED BLACK AND WHITE",
    " FLORETTEzmBLACK FLORETTEoWHITE FLORETTEoEIGHT PETALLED OUTLINED BLACK FLORETTEznCIRCLED OPEN CENTRE EIGHT P",
    "OINTED STARznHEAVY TEARDROP-SPOKED PINWHEEL ASTERISKzoSNOWFLAKEjTIGHT TRIFOLIATE SNOWFLAKEzbHEAVY CHEVRON SN",
    "OWFLAKExSPARKLEhHEAVY SPARKLEnBALLOON-SPOKED ASTERISKxEIGHT TEARDROP-SPOKED PROPELLER ASTERISKzpHEAVY EIGHT ",
    "TEARDROP-SPOKED PROPELLER ASTERISKzvCROSS MARKkSHADOWED WHITE CIRCLEvNEGATIVE SQUARED CROSS MARKzcLOWER RIGH",
    "T DROP-SHADOWED WHITE SQUAREznUPPER RIGHT DROP-SHADOWED WHITE SQUAREznLOWER RIGHT SHADOWED WHITE SQUAREziUPP",
    "ER RIGHT SHADOWED WHITE SQUAREziBLACK QUESTION MARK ORNAMENTzdWHITE QUESTION MARK ORNAMENTwEXCLAMATION MARK ",
    "ORNAMENTzgBLACK DIAMOND MINUS WHITE XzcHEAVY EXCLAMATION MARK SYMBOLzeLIGHT VERTICAL BARsMEDIUM VERTICAL BAR",
    "tHEAVY VERTICAL BARmSINGLE TURNED COMMA QUOTATION MARK ORNAMENTzlCOMMA QUOTATION MARK ORNAMENTzlDOUBLE TURNE",
    "D COMMA QUOTATION MARK ORNAMENTzlCOMMA QUOTATION MARK ORNAMENTzlLOW SINGLE COMMA QUOTATION MARK ORNAMENTzlDO",
    "UBLE COMMA QUOTATION MARK ORNAMENTzvCURVED STEM PARAGRAPH SIGN ORNAMENTzkHEAVY EXCLAMATION MARK ORNAMENTzaHE",
    "ART EXCLAMATION MARK ORNAMENTzgBLACK HEARTrROTATED HEAVY BLACK HEART BULLETzhFLORAL HEARTmROTATED FLORAL HEA",
    "RT BULLETzcMEDIUM LEFT PARENTHESIS ORNAMENTzaRIGHT PARENTHESIS ORNAMENTzbFLATTENED LEFT PARENTHESIS ORNAMENT",
    "zaRIGHT PARENTHESIS ORNAMENTzlLEFT-POINTING ANGLE BRACKET ORNAMENTzlRIGHT-POINTING ANGLE BRACKET ORNAMENTztH",
    "EAVY LEFT-POINTING ANGLE QUOTATION MARK ORNAMENTzsRIGHT-POINTING ANGLE QUOTATION MARK ORNAMENTztLEFT-POINTIN",
    "G ANGLE BRACKET ORNAMENTzlRIGHT-POINTING ANGLE BRACKET ORNAMENTzsLIGHT LEFT TORTOISE SHELL BRACKET ORNAMENTz",
    "lRIGHT TORTOISE SHELL BRACKET ORNAMENTzsMEDIUM LEFT CURLY BRACKET ORNAMENTzcRIGHT CURLY BRACKET ORNAMENTzkDI",
    "NGBAT NEGATIVE CIRCLED DIGIT ONEdTWOcHREEfFOURdIVEeSIXcEVENfEIGHTfNINEkNUMBER TENzcCIRCLED SANS-SERIF DIGIT ",
    "ONEdTWOcHREEfFOURdIVEeSIXcEVENfEIGHTfNINEkNUMBER TENzeNEGATIVE CIRCLED SANS-SERIF DIGIT ONEdTWOcHREEfFOURdIV",
    "EeSIXcEVENfEIGHTfNINEkNUMBER TENzvHEAVY WIDE-HEADED RIGHTWARDS ARROWzdPLUS SIGNjMINUS SIGNkDIVISION SIGNnSOU",
    "TH EAST ARROWqRIGHTWARDS ARROWqNORTH EAST ARROWwDRAFTING POINT RIGHTWARDS ARROWzgHEAVY ROUND-TIPPED RIGHTWAR",
    "DS ARROWzkTRIANGLE-HEADED RIGHTWARDS ARROWzhHEAVY TRIANGLE-HEADED RIGHTWARDS ARROWznDASHED TRIANGLE-HEADED R",
    "IGHTWARDS ARROWzoHEAVY DASHED TRIANGLE-HEADED RIGHTWARDS ARROWzuBLACK RIGHTWARDS ARROWwTHREE-D TOP-LIGHTED R",
    "IGHTWARDS ARROWHEADzhBOTTOM-LIGHTED RIGHTWARDS ARROWHEADzsBLACK RIGHTWARDS ARROWHEADzbHEAVY BLACK CURVED DOW",
    "NWARDS AND RIGHTWARDS ARROWzfUPWARDS AND RIGHTWARDS ARROWzwSQUAT BLACK RIGHTWARDS ARROWzdHEAVY CONCAVE-POINT",
    "ED BLACK RIGHTWARDS ARROWztRIGHT-SHADED WHITE RIGHTWARDS ARROWzkLEFT-SHADED WHITE RIGHTWARDS ARROWzjBACK-TIL",
    "TED SHADOWED WHITE RIGHTWARDS ARROWzsFRONT-TILTED SHADOWED WHITE RIGHTWARDS ARROWztHEAVY LOWER RIGHT-SHADOWE",
    "D WHITE RIGHTWARDS ARROWzsUPPER RIGHT-SHADOWED WHITE RIGHTWARDS ARROWzyNOTCHED LOWER RIGHT-SHADOWED WHITE RI",
    "GHTWARDS ARROWzzbCURLY LOOPkNOTCHED UPPER RIGHT-SHADOWED WHITE RIGHTWARDS ARROWzzbCIRCLED HEAVY WHITE RIGHTW",
    "ARDS ARROWzlWHITE-FEATHERED RIGHTWARDS ARROWzhBLACK-FEATHERED SOUTH EAST ARROWqRIGHTWARDS ARROWqNORTH EAST A",
    "RROWzhHEAVY BLACK-FEATHERED SOUTH EAST ARROWqRIGHTWARDS ARROWqNORTH EAST ARROWznTEARDROP-BARBED RIGHTWARDS A",
    "RROWzhHEAVY TEARDROP-SHANKED RIGHTWARDS ARROWzoWEDGE-TAILED RIGHTWARDS ARROWzeHEAVY WEDGE-TAILED RIGHTWARDS ",
    "ARROWzkOPEN-OUTLINED RIGHTWARDS ARROWzfDOUBLE CURLY LOOPrTHREE DIMENSIONAL ANGLExWHITE TRIANGLE CONTAINING S",
    "MALL WHITE TRIANGLEzvPERPENDICULARnOPEN SUBSETePERSETnLEFT S-SHAPED BAG DELIMITERzcRIGHT S-SHAPED BAG DELIMI",
    "TERzdOR WITH DOT INSIDEsREVERSE SOLIDUS PRECEDING SUBSETzhSUPERSET PRECEDING SOLIDUSzbVERTICAL BAR WITH HORI",
    "ZONTAL STROKEzkMATHEMATICAL RISING DIAGONALzdLONG DIVISIONnMATHEMATICAL FALLING DIAGONALzeSQUARED LOGICAL AN",
    "DdORsWHITE DIAMOND WITH CENTRED DOTzfAND WITH DOTmELEMENT OF OPENING UPWARDSzbLOWER RIGHT CORNER WITH DOTzcU",
    "PPER LEFT CORNER WITH DOTzbLEFT OUTER JOINpRIGHT OUTER JOINqFULL OUTER JOINpLARGE UP TACKhDOWN TACKoEFT AND ",
    "RIGHT DOUBLE TURNSTILEqTACKoMULTIMAPmONG RIGHT TACKkLEFT TACKoUP TACK WITH CIRCLE ABOVEzaLOZENGE DIVIDED BY ",
    "HORIZONTAL RULEzjWHITE CONCAVE-SIDED DIAMONDa WITH LEFTWARDS TICKoRIGHTWARDS TICKzrSQUARE WITH LEFTWARDS TIC",
    "KoRIGHTWARDS TICKziMATHEMATICAL LEFT WHITE SQUARE BRACKETzaRIGHT WHITE SQUARE BRACKETzbLEFT ANGLE BRACKETsRI",
    "GHT ANGLE BRACKETtLEFT DOUBLE ANGLE BRACKETzaRIGHT DOUBLE ANGLE BRACKETzbLEFT WHITE TORTOISE SHELL BRACKETzi",
    "RIGHT WHITE TORTOISE SHELL BRACKETzjLEFT FLATTENED PARENTHESISzbRIGHT FLATTENED PARENTHESISzpUPWARDS QUADRUP",
    "LE ARROWxDOWNWARDS QUADRUPLE ARROWzaANTICLOCKWISE GAPPED CIRCLE ARROWziCLOCKWISE GAPPED CIRCLE ARROWzeRIGHT ",
    "ARROW WITH CIRCLED PLUSzeLONG LEFTWARDS ARROWpRIGHTWARDS ARROWqLEFT RIGHT ARROWmWARDS DOUBLE ARROWwRIGHTWARD",
    "S DOUBLE ARROWxLEFT RIGHT DOUBLE ARROWtWARDS ARROW FROM BARyRIGHTWARDS ARROW FROM BARzaLEFTWARDS DOUBLE ARRO",
    "W FROM BARzgRIGHTWARDS DOUBLE ARROW FROM BARvSQUIGGLE ARROWzfBRAILLE PATTERN BLANKfDOTS-1b2b12c3b13c23c123d4",
    "b14c24c124d34c134d234d1234e5b15c25c125d35c135d235d1235e45c145d245d1245e345d1345e2345e12345f6b16c26c126d36c13",
    "6d236d1236e46c146d246d1246e346d1346e2346e12346f56c156d256d1256e356d1356e2356e12356f456d1456e2456e12456f3456e",
    "13456f23456f123456g7b17c27c127d37c137d237d1237e47c147d247d1247e347d1347e2347e12347f57c157d257d1257e357d1357e",
    "2357e12357f457d1457e2457e12457f3457e13457f23457f123457g67c167d267d1267e367d1367e2367e12367f467d1467e2467e124",
    "67f3467e13467f23467f123467g567d1567e2567e12567f3567e13567f23567f123567g4567e14567f24567f124567g34567f134567g",
    "234567g1234567h8b18c28c128d38c138d238d1238e48c148d248d1248e348d1348e2348e12348f58c158d258d1258e358d1358e2358",
    "e12358f458d1458e2458e12458f3458e13458f23458f123458g68c168d268d1268e368d1368e2368e12368f468d1468e2468e12468f3",
    "468e13468f23468f123468g568d1568e2568e12568f3568e13568f23568f123568g4568e14568f24568f124568g34568f134568g2345",
    "68g1234568h78c178d278d1278e378d1378e2378e12378f478d1478e2478e12478f3478e13478f23478f123478g578d1578e2578e125",
    "78f3578e13578f23578f123578g4578e14578f24578f124578g34578f134578g234578g1234578h678d1678e2678e12678f3678e1367",
    "8f23678f123678g4678e14678f24678f124678g34678f134678g234678g1234678h5678e15678f25678f125678g35678f135678g2356",
    "78g1235678h45678f145678g245678g1245678h345678g1345678h2345678h12345678zeRIGHTWARDS TWO-HEADED ARROW WITH VER",
    "TICAL STROKEpDOUBLE VERTICAL STROKEzzfLEFTWARDS DOUBLE ARROW WITH VERTICAL STROKEzsRIGHTWARDS DOUBLE ARROW W",
    "ITH VERTICAL STROKEztLEFT RIGHT DOUBLE ARROW WITH VERTICAL STROKEztRIGHTWARDS TWO-HEADED ARROW FROM BARzlLEF",
    "TWARDS DOUBLE ARROW FROM BARzgRIGHTWARDS DOUBLE ARROW FROM BARzhDOWNWARDS ARROW WITH HORIZONTAL STROKEznUPWA",
    "RDS ARROW WITH HORIZONTAL STROKEzdTRIPLE ARROWuDOWNWARDS TRIPLE ARROWwLEFTWARDS DOUBLE DASH ARROWzcRIGHTWARD",
    "S DOUBLE DASH ARROWzdLEFTWARDS TRIPLE DASH ARROWzcRIGHTWARDS TRIPLE DASH ARROWqWO-HEADED TRIPLE DASH ARROWzd",
    "ARROW WITH DOTTED STEMziUPWARDS ARROW TO BARuDOWNWARDS ARROW TO BARwRIGHTWARDS ARROW WITH TAIL WITH VERTICAL",
    " STROKEpDOUBLE VERTICAL STROKEzsTWO-HEADED ARROW WITH TAILa WITH VERTICAL STROKEpDOUBLE VERTICAL STROKEzzpLE",
    "FTWARDS ARROW-TAILuRIGHTWARDS ARROW-TAILvLEFTWARDS DOUBLE ARROW-TAILzcRIGHTWARDS DOUBLE ARROW-TAILzdLEFTWARD",
    "S ARROW TO BLACK DIAMONDzhRIGHTWARDS ARROW TO BLACK DIAMONDziLEFTWARDS ARROW FROM BAR TO BLACK DIAMONDzqRIGH",
    "TWARDS ARROW FROM BAR TO BLACK DIAMONDzrNORTH WEST AND SOUTH EAST ARROWzaEAST AND SOUTH WEST ARROWzaWEST ARR",
    "OW WITH HOOKuEAST ARROW WITH HOOKzbSOUTH EAST ARROW WITH HOOKuWEST ARROW WITH HOOKzbNORTH WEST ARROW AND NOR",
    "TH EAST ARROWzgEAST ARROW AND SOUTH EAST ARROWzmSOUTH EAST ARROW AND SOUTH WEST ARROWzgWEST ARROW AND NORTH ",
    "WEST ARROWzmRISING DIAGONAL CROSSING FALLING DIAGONALzqFALLING DIAGONAL CROSSING RISING DIAGONALzqSOUTH EAST",
    " ARROW CROSSING NORTH EAST ARROWzrNORTH EAST ARROW CROSSING SOUTH EAST ARROWzrFALLING DIAGONAL CROSSING NORT",
    "H EAST ARROWzrRISING DIAGONAL CROSSING SOUTH EAST ARROWzqNORTH EAST ARROW CROSSING NORTH WEST ARROWzlWEST AR",
    "ROW CROSSING NORTH EAST ARROWzrWAVE ARROW POINTING DIRECTLY RIGHTzjARROW POINTING RIGHTWARDS THEN CURVING UP",
    "WARDShDOWNWARDSziDOWNWARDS THEN CURVING LEFTWARDSjRIGHTWARDSzxRIGHT-SIDE ARC CLOCKWISE ARROWzfLEFT-SIDE ARC ",
    "ANTICLOCKWISE ARROWziTOP ARC ANTICLOCKWISE ARROWzcBOTTOM ARC ANTICLOCKWISE ARROWzfTOP ARC CLOCKWISE ARROW WI",
    "TH MINUSzbANTICLOCKWISE ARROW WITH PLUSzmLOWER RIGHT SEMICIRCULAR CLOCKWISE ARROWzjLEFT SEMICIRCULAR ANTICLO",
    "CKWISE ARROWzsANTICLOCKWISE CLOSED CIRCLE ARROWziCLOCKWISE CLOSED CIRCLE ARROWzeRIGHTWARDS ARROW ABOVE SHORT",
    " LEFTWARDS ARROWztLEFTWARDS ARROW ABOVE SHORT RIGHTWARDS ARROWztSHORT RIGHTWARDS ARROW ABOVE LEFTWARDS ARROW",
    "ztRIGHTWARDS ARROW WITH PLUS BELOWzhLEFTWARDS ARROW WITH PLUS BELOWzgRIGHTWARDS ARROW THROUGH XzbLEFT RIGHT ",
    "ARROW THROUGH SMALL CIRCLEzmUPWARDS TWO-HEADED ARROW FROM SMALL CIRCLEzrLEFT BARB UP RIGHT BARB DOWN HARPOON",
    "zbDOWN RIGHT BARB UP HARPOONzlUP BARB RIGHT DOWN BARB LEFT HARPOONzdLEFT DOWN BARB RIGHT HARPOONzlLEFT BARB ",
    "UP RIGHT BARB UP HARPOONzjUP BARB RIGHT DOWN BARB RIGHT HARPOONzmLEFT BARB DOWN RIGHT BARB DOWN HARPOONznUP ",
    "BARB LEFT DOWN BARB LEFT HARPOONzkLEFTWARDS HARPOON WITH BARB UP TO BARzmRIGHTWARDS HARPOON WITH BARB UP TO ",
    "BARznUPWARDS HARPOON WITH BARB RIGHT TO BARznDOWNWARDS HARPOON WITH BARB RIGHT TO BARzpLEFTWARDS HARPOON WIT",
    "H BARB DOWN TO BARzoRIGHTWARDS HARPOON WITH BARB DOWN TO BARzpUPWARDS HARPOON WITH BARB LEFT TO BARzmDOWNWAR",
    "DS HARPOON WITH BARB LEFT TO BARzoLEFTWARDS HARPOON WITH BARB UP FROM BARzoRIGHTWARDS HARPOON WITH BARB UP F",
    "ROM BARzpUPWARDS HARPOON WITH BARB RIGHT FROM BARzpDOWNWARDS HARPOON WITH BARB RIGHT FROM BARzrLEFTWARDS HAR",
    "POON WITH BARB DOWN FROM BARzqRIGHTWARDS HARPOON WITH BARB DOWN FROM BARzrUPWARDS HARPOON WITH BARB LEFT FRO",
    "M BARzoDOWNWARDS HARPOON WITH BARB LEFT FROM BARzqLEFTWARDS HARPOON WITH BARB UP ABOVE LEFTWARDS HARPOON WIT",
    "H BARB DOWNzztUPWARDS HARPOON WITH BARB LEFT BESIDE UPWARDS HARPOON WITH BARB RIGHTzztRIGHTWARDS HARPOON WIT",
    "H BARB UP ABOVE RIGHTWARDS HARPOON WITH BARB DOWNzzvDOWNWARDS HARPOON WITH BARB LEFT BESIDE DOWNWARDS HARPOO",
    "N WITH BARB RIGHTzzxLEFTWARDS HARPOON WITH BARB UP ABOVE RIGHTWARDS HARPOON WITH BARB UPzpDOWN ABOVE RIGHTWA",
    "RDS HARPOON WITH BARB DOWNzzwRIGHTWARDS HARPOON WITH BARB UP ABOVE LEFTWARDS HARPOON WITH BARB UPzoDOWN ABOV",
    "E LEFTWARDS HARPOON WITH BARB DOWNzzwLEFTWARDS HARPOON WITH BARB UP ABOVE LONG DASHsDOWN BELOW LONG DASHzxRI",
    "GHTWARDS HARPOON WITH BARB UP ABOVE LONG DASHsDOWN BELOW LONG DASHzyUPWARDS HARPOON WITH BARB LEFT BESIDE DO",
    "WNWARDS HARPOON WITH BARB RIGHTzzvDOWNWARDS HARPOON WITH BARB LEFT BESIDE UPWARDS HARPOON WITH BARB RIGHTzzv",
    "RIGHT DOUBLE ARROW WITH ROUNDED HEADzlEQUALS SIGN ABOVE RIGHTWARDS ARROWzjTILDE OPERATOR ABOVE RIGHTWARDS AR",
    "ROWzmLEFTWARDS ARROW ABOVE TILDE OPERATORzlRIGHTWARDS ARROW ABOVE TILDE OPERATORoALMOST EQUAL TOznLESS-THAN ",
    "ABOVE LEFTWARDS ARROWzeFTWARDS ARROW THROUGH LESS-THANziGREATER-THAN ABOVE RIGHTWARDS ARROWzkSUBSET ABOVE RI",
    "GHTWARDS ARROWzeLEFTWARDS ARROW THROUGH SUBSETzfSUPERSET ABOVE LEFTWARDS ARROWzfLEFT FISH TAILoRIGHT FISH TA",
    "ILpUP FISH TAILmDOWN FISH TAILoTRIPLE VERTICAL BAR DELIMITERzeZ NOTATION SPOTeTYPE COLONvLEFT WHITE CURLY BR",
    "ACKETyRIGHT WHITE CURLY BRACKETzaLEFT WHITE PARENTHESISwRIGHT WHITE PARENTHESISxZ NOTATION LEFT IMAGE BRACKE",
    "TsRIGHT IMAGE BRACKETtLEFT BINDING BRACKETuRIGHT BINDING BRACKETzhLEFT SQUARE BRACKET WITH UNDERBARziRIGHT S",
    "QUARE BRACKET WITH UNDERBARzjLEFT SQUARE BRACKET WITH TICK IN TOP CORNERzsRIGHT SQUARE BRACKET WITH TICK IN ",
    "BOTTOM CORNERzwLEFT SQUARE BRACKET WITH TICK IN BOTTOM CORNERzvRIGHT SQUARE BRACKET WITH TICK IN TOP CORNERz",
    "tLEFT ANGLE BRACKET WITH DOTzcRIGHT ANGLE BRACKET WITH DOTzdLEFT ARC LESS-THAN BRACKETzbRIGHT ARC GREATER-TH",
    "AN BRACKETzfDOUBLE LEFT ARC GREATER-THAN BRACKETzeRIGHT ARC LESS-THAN BRACKETzjLEFT BLACK TORTOISE SHELL BRA",
    "CKETziRIGHT BLACK TORTOISE SHELL BRACKETzjDOTTED FENCEmVERTICAL ZIGZAG LINEuMEASURED ANGLE OPENING LEFTzcRIG",
    "HT ANGLE VARIANT WITH SQUAREzgMEASURED RIGHT ANGLE WITH DOTzeANGLE WITH S INSIDEsCUTE ANGLElSPHERICAL ANGLE ",
    "OPENING LEFTeUPzbTURNED ANGLEmREVERSED ANGLEoANGLE WITH UNDERBARtREVERSED ANGLE WITH UNDERBARzdOBLIQUE ANGLE",
    " OPENING UPcDOWNzbMEASURED ANGLE WITH OPEN ARM ENDING IN ARROW POINTING UP AND RIGHTfLEFTlDOWN AND RIGHTfLEF",
    "TnRIGHT AND UPmLEFT AND UPlRIGHT AND DOWNoLEFT AND DOWNzzrREVERSED EMPTY SETsEMPTY SET WITH OVERBARhSMALL CI",
    "RCLE ABOVEsRIGHT ARROW ABOVErLEFT ARROW ABOVEzgCIRCLE WITH HORIZONTAL BARuD VERTICAL BARmPARALLELiREVERSE SO",
    "LIDUSpPERPENDICULARp DIVIDED BY HORIZONTAL BAR AND TOP HALF DIVIDED BY VERTICAL BARzzmWITH SUPERIMPOSED XuD ",
    "ANTICLOCKWISE-ROTATED DIVISION SIGNzsUP ARROW THROUGH CIRCLExCIRCLED WHITE BULLETmBULLETgLESS-THANjGREATER-T",
    "HANo WITH SMALL CIRCLE TO THE RIGHTzaTWO HORIZONTAL STROKES TO THE RIGHTzwSQUARED RISING DIAGONAL SLASHvFALL",
    "ING DIAGONAL SLASHwASTERISKiSMALL CIRCLElQUAREoTWO JOINED SQUARESrRIANGLE WITH DOT ABOVEjUNDERBARwS IN TRIAN",
    "GLEnTRIANGLE WITH SERIFS AT BOTTOMzfRIGHT TRIANGLE ABOVE LEFT TRIANGLEzjLEFT TRIANGLE BESIDE VERTICAL BARziV",
    "ERTICAL BAR BESIDE RIGHT TRIANGLEzjBOWTIE WITH LEFT HALF BLACKpRIGHT HALF BLACKzcLACK BOWTIEmTIMES WITH LEFT",
    " HALF BLACKpRIGHT HALF BLACKzcWHITE HOURGLASSpBLACK HOURGLASSpLEFT WIGGLY FENCErRIGHT WIGGLY FENCEsLEFT DOUB",
    "LE WIGGLY FENCEyRIGHT DOUBLE WIGGLY FENCEzaINCOMPLETE INFINITYtTIE OVER INFINITYrINFINITY NEGATED WITH VERTI",
    "CAL BARzjDOUBLE-ENDED MULTIMAPvSQUARE WITH CONTOURED OUTLINEzeINCREASES ASmSHUFFLE PRODUCTpEQUALS SIGN AND S",
    "LANTED PARALLELa WITH TILDE ABOVEzyIDENTICAL TO AND SLANTED PARALLELziGLEICH STARKmTHERMODYNAMICnDOWN-POINTI",
    "NG TRIANGLE WITH LEFT HALF BLACKpRIGHT HALF BLACKztBLACK DIAMOND WITH DOWN ARROWxLOZENGEnWHITE CIRCLE WITH D",
    "OWN ARROWzdBLACK CIRCLE WITH DOWN ARROWzdERROR-BARRED WHITE SQUAREmBLACK SQUAREmWHITE DIAMONDnBLACK DIAMONDn",
    "WHITE CIRCLEmBLACK CIRCLEzaRULE-DELAYEDlEVERSE SOLIDUS OPERATORySOLIDUS WITH OVERBARuREVERSE SOLIDUS WITH HO",
    "RIZONTAL STROKEznBIG SOLIDUShREVERSE SOLIDUStDOUBLE PLUSlTRIPLE PLUSlLEFT-POINTING CURVED ANGLE BRACKETzjRIG",
    "HT-POINTING CURVED ANGLE BRACKETzkTINYeMINYeN-ARY CIRCLED DOT OPERATORmPLUS OPERATORnTIMES OPERATORwUNION OP",
    "ERATOR WITH DOTdPLUSySQUARE INTERSECTION OPERATORvUNION OPERATORzcTWO LOGICAL AND OPERATORmOR OPERATORxN-ARY",
    " TIMES OPERATORuMODULO TWO SUMoSUMMATION WITH INTEGRALxQUADRUPLE INTEGRAL OPERATORzcFINITE PART INTEGRALuINT",
    "EGRAL WITH DOUBLE STROKEsAVERAGE WITH SLASHzcCIRCULATION FUNCTIONuANTICLOCKWISE INTEGRATIONzaLINE INTEGRATIO",
    "N WITH RECTANGULAR PATH AROUND POLEzdSEMICIRCULAR PATH AROUND POLEzjNOT INCLUDING THE POLEzoINTEGRAL AROUND ",
    "A POINT OPERATORzhQUATERNION INTEGRAL OPERATORzdINTEGRAL WITH LEFTWARDS ARROW WITH HOOKzaTIMES SIGNkINTERSEC",
    "TIONmUNIONfOVERBARhUNDERBARwJOINeLARGE LEFT TRIANGLE OPERATORzdZ NOTATION SCHEMA COMPOSITIONlPIPINGfROJECTIO",
    "NzdPLUS SIGN WITH SMALL CIRCLE ABOVEsCIRCUMFLEX ACCENT ABOVExTILDE ABOVElDOT BELOWjTILDE BELOWlSUBSCRIPT TWO",
    "nBLACK TRIANGLEzeMINUS SIGN WITH COMMA ABOVElDOT BELOWjFALLING DOTSmRISING DOTSzcPLUS SIGN IN LEFT HALF CIRC",
    "LEqRIGHT HALF CIRCLEzfVECTOR OR CROSS PRODUCTxMULTIPLICATION SIGN WITH DOT ABOVEjUNDERBARziSEMIDIRECT PRODUC",
    "T WITH BOTTOM CLOSEDzlMASH PRODUCTnMULTIPLICATION SIGN IN LEFT HALF CIRCLEqRIGHT HALF CIRCLEzpCIRCLED MULTIP",
    "LICATION SIGN WITH CIRCUMFLEX ACCENTzzaMULTIPLICATION SIGN IN DOUBLE CIRCLEzlCIRCLED DIVISION SIGNvPLUS SIGN",
    " IN TRIANGLEvMINUS SIGN IN TRIANGLEvULTIPLICATION SIGN IN TRIANGLEzgINTERIOR PRODUCTqRIGHTHAND INTERIOR PROD",
    "UCTzbZ NOTATION RELATIONAL COMPOSITIONziAMALGAMATION OR COPRODUCTzaINTERSECTION WITH DOTvUNION WITH MINUS SI",
    "GNkOVERBARsINTERSECTION WITH OVERBARhLOGICAL ANDzeUNION WITH LOGICAL ORpABOVE INTERSECTIONyINTERSECTION ABOV",
    "E UNIONyUNION ABOVE BAR ABOVE INTERSECTIONzjINTERSECTION ABOVE BAR ABOVE UNIONzjUNION BESIDE AND JOINED WITH",
    " UNIONzjINTERSECTION BESIDE AND JOINED WITH INTERSECTIONzxCLOSED UNION WITH SERIFSrINTERSECTION WITH SERIFSz",
    "gDOUBLE SQUARE INTERSECTIONmUNIONtCLOSED UNION WITH SERIFS AND SMASH PRODUCTzrLOGICAL AND WITH DOT ABOVEsOR ",
    "WITH DOT ABOVEzaDOUBLE LOGICAL ANDdORrTWO INTERSECTING LOGICAL ANDdORzcSLOPING LARGE ORcANDrLOGICAL OR OVERL",
    "APPING LOGICAL ANDzbAND WITH MIDDLE STEMuOR WITH MIDDLE STEMtAND WITH HORIZONTAL DASHyOR WITH HORIZONTAL DAS",
    "HxAND WITH DOUBLE OVERBARoUNDERBARiDOUBLE UNDERBARzhSMALL VEE WITH UNDERBARxLOGICAL OR WITH DOUBLE OVERBARhU",
    "NDERBARzgZ NOTATION DOMAIN ANTIRESTRICTIONwRANGE ANTIRESTRICTIONzhEQUALS SIGN WITH DOT BELOWzbIDENTICAL WITH",
    " DOT ABOVEyTRIPLE HORIZONTAL BAR WITH DOUBLE VERTICAL STROKEwTRIPLE VERTICAL STROKEzxILDE OPERATOR WITH DOT ",
    "ABOVEjRISING DOTSzgSIMILAR MINUS SIMILARvCONGRUENT WITH DOT ABOVEyEQUALS WITH ASTERISKuALMOST EQUAL TO WITH ",
    "CIRCUMFLEX ACCENTzmPPROXIMATELY EQUAL OR EQUAL TOzgEQUALS SIGN ABOVE PLUS SIGNzcPLUS SIGN ABOVE EQUALS SIGNz",
    "cEQUALS SIGN ABOVE TILDE OPERATORzhDOUBLE COLON EQUALsTWO CONSECUTIVE EQUALS SIGNSzcHREE CONSECUTIVE EQUALS ",
    "SIGNSzfEQUALS SIGN WITH TWO DOTS ABOVE AND TWO DOTS BELOWzwIVALENT WITH FOUR DOTS ABOVEzgLESS-THAN WITH CIRC",
    "LE INSIDEzdGREATER-THAN WITH CIRCLE INSIDEzgLESS-THAN WITH QUESTION MARK ABOVEzjGREATER-THAN WITH QUESTION M",
    "ARK ABOVEzmLESS-THAN OR SLANTED EQUAL TOzeGREATER-THAN OR SLANTED EQUAL TOzhLESS-THAN OR SLANTED EQUAL TO WI",
    "TH DOT INSIDEzuGREATER-THAN OR SLANTED EQUAL TO WITH DOT INSIDEzxLESS-THAN OR SLANTED EQUAL TO WITH DOT ABOV",
    "EztGREATER-THAN OR SLANTED EQUAL TO WITH DOT ABOVEzwLESS-THAN OR SLANTED EQUAL TO WITH DOT ABOVE RIGHTzzaGRE",
    "ATER-THAN OR SLANTED EQUAL TO WITH DOT ABOVE LEFTzzcLESS-THAN OR APPROXIMATEyGREATER-THAN OR APPROXIMATEzcLE",
    "SS-THAN AND SINGLE-LINE NOT EQUAL TOznGREATER-THAN AND SINGLE-LINE NOT EQUAL TOzqLESS-THAN AND NOT APPROXIMA",
    "TEzeGREATER-THAN AND NOT APPROXIMATEzhLESS-THAN ABOVE DOUBLE-LINE EQUAL ABOVE GREATER-THANzzcGREATER-THAN AB",
    "OVE DOUBLE-LINE EQUAL ABOVE LESS-THANzzcLESS-THAN ABOVE SIMILAR OR EQUALzhGREATER-THAN ABOVE SIMILAR OR EQUA",
    "LzkLESS-THAN ABOVE SIMILAR ABOVE GREATER-THANzrGREATER-THAN ABOVE SIMILAR ABOVE LESS-THANzrLESS-THAN ABOVE G",
    "REATER-THAN ABOVE DOUBLE-LINE EQUALzzcGREATER-THAN ABOVE LESS-THAN ABOVE DOUBLE-LINE EQUALzzcLESS-THAN ABOVE",
    " SLANTED EQUAL ABOVE GREATER-THAN ABOVE SLANTED EQUALzzsGREATER-THAN ABOVE SLANTED EQUAL ABOVE LESS-THAN ABO",
    "VE SLANTED EQUALzzsSLANTED EQUAL TO OR LESS-THANjGREATER-THANmLESS-THAN WITH DOT INSIDEzaGREATER-THAN WITH D",
    "OT INSIDEzxDOUBLE-LINE EQUAL TO OR LESS-THANjGREATER-THANySLANTED EQUAL TO OR LESS-THANjGREATER-THANztSIMILA",
    "R OR LESS-THANjGREATER-THANpABOVE LESS-THAN ABOVE EQUALS SIGNzcGREATER-THAN ABOVE EQUALS SIGNztDOUBLE NESTED",
    " LESS-THANjGREATER-THANmLESS-THAN WITH UNDERBARzmGREATER-THAN OVERLAPPING LESS-THANvBESIDE LESS-THANzeLESS-T",
    "HAN CLOSED BY CURVEzaGREATER-THAN CLOSED BY CURVEzdLESS-THAN CLOSED BY CURVE ABOVE SLANTED EQUALzuGREATER-TH",
    "AN CLOSED BY CURVE ABOVE SLANTED EQUALzxSMALLER THANmLARGER THANlSMALLER THAN OR EQUAL TOyLARGER THAN OR EQU",
    "AL TOxEQUALS SIGN WITH BUMPY ABOVEzdPRECEDES ABOVE SINGLE-LINE EQUALS SIGNznSUCCEEDS ABOVE SINGLE-LINE EQUAL",
    "S SIGNznPRECEDES ABOVE SINGLE-LINE NOT EQUAL TOzoSUCCEEDS ABOVE SINGLE-LINE NOT EQUAL TOzoPRECEDES ABOVE EQU",
    "ALS SIGNzbSUCCEEDS ABOVE EQUALS SIGNzbPRECEDES ABOVE NOT EQUAL TOzcSUCCEEDS ABOVE NOT EQUAL TOzcPRECEDES ABO",
    "VE ALMOST EQUAL TOzfSUCCEEDS ABOVE ALMOST EQUAL TOzfPRECEDES ABOVE NOT ALMOST EQUAL TOzjSUCCEEDS ABOVE NOT A",
    "LMOST EQUAL TOzjDOUBLE PRECEDESiSUCCEEDSpSUBSET WITH DOTnPERSET WITH DOTpBSET WITH PLUS SIGN BELOWzaPERSET W",
    "ITH PLUS SIGN BELOWzcBSET WITH MULTIPLICATION SIGN BELOWzkPERSET WITH MULTIPLICATION SIGN BELOWzmBSET OF OR ",
    "EQUAL TO WITH DOT ABOVEzjPERSET OF OR EQUAL TO WITH DOT ABOVEzlBSET OF ABOVE EQUALS SIGNzaPERSET OF ABOVE EQ",
    "UALS SIGNzcBSET OF ABOVE TILDE OPERATORzdPERSET OF ABOVE TILDE OPERATORzfBSET OF ABOVE ALMOST EQUAL TOzePERS",
    "ET OF ABOVE ALMOST EQUAL TOzgBSET OF ABOVE NOT EQUAL TOzbPERSET OF ABOVE NOT EQUAL TOzeQUARE LEFT OPEN BOX O",
    "PERATORwRIGHT OPEN BOX OPERATORzfCLOSED SUBSETePERSETgBSET OR EQUAL TOqPERSET OR EQUAL TOzcSUBSET ABOVE SUPE",
    "RSETtPERSET ABOVE SUBSETtBSET ABOVE SUBSETrPERSET ABOVE SUPERSEToBESIDE SUBSETgAND JOINED BY DASH WITH SUBSE",
    "TzvELEMENT OF OPENING DOWNWARDSzdPITCHFORK WITH TEE TOPwTRANSVERSAL INTERSECTIONyFORKINGhNONFORKINGkSHORT LE",
    "FT TACKjDOWN TACKjUP TACKnPERPENDICULAR WITH SuVERTICAL BAR TRIPLE RIGHT TURNSTILEzkDOUBLE VERTICAL BAR LEFT",
    " TURNSTILEzjVERTICAL BAR DOUBLE LEFT TURNSTILEzjDOUBLE VERTICAL BAR DOUBLE LEFT TURNSTILEzqLONG DASH FROM LE",
    "FT MEMBER OF DOUBLE VERTICALzuSHORT DOWN TACK WITH OVERBARwUP TACK WITH UNDERBARnABOVE SHORT DOWN TACKzkDOUB",
    "LE DOWN TACKjUP TACKhSTROKE NOT SIGNwREVERSED DOUBLE STROKE NOT SIGNzgDOES NOT DIVIDE WITH REVERSED NEGATION",
    " SLASHztVERTICAL LINE WITH CIRCLE ABOVEfBELOWzgDOWN TACK WITH CIRCLE BELOWzcPARALLEL WITH HORIZONTAL STROKEr",
    "TILDE OPERATORzdTRIPLE VERTICAL BAR BINARY RELATIONpWITH HORIZONTAL STROKEzkCOLON OPERATORoNESTED LESS-THANj",
    "GREATER-THANzbDOUBLE-LINE SLANTED LESS-THAN OR EQUAL TOvGREATER-THAN OR EQUAL TOztTRIPLE SOLIDUS BINARY RELA",
    "TIONzfLARGE TRIPLE VERTICAL BAR OPERATORzjDOUBLE SOLIDUS OPERATORxWHITE VERTICAL BARsN-ARY WHITE VERTICAL BA",
    "RxORTH EAST WHITE ARROWqWEST WHITE ARROWwSOUTH EAST WHITE ARROWqWEST WHITE ARROWwLEFT RIGHT WHITE ARROWsWARD",
    "S BLACK ARROWvUPWARDS BLACK ARROWtDOWNWARDS BLACK ARROWvNORTH EAST BLACK ARROWqWEST BLACK ARROWwSOUTH EAST B",
    "LACK ARROWqWEST BLACK ARROWwLEFT RIGHT BLACK ARROWwUP DOWN BLACK ARROWtRIGHTWARDS ARROW WITH TIP DOWNWARDSjU",
    "PWARDSziLEFTWARDS ARROW WITH TIP DOWNWARDSjUPWARDSzhSQUARE WITH TOP HALF BLACKoBOTTOM HALF BLACKrUPPER RIGHT",
    " DIAGONAL HALF BLACKzgLOWER LEFT DIAGONAL HALF BLACKzrDIAMOND WITH LEFT HALF BLACKpRIGHT HALF BLACKqTOP HALF",
    " BLACKoBOTTOM HALF BLACKzeOTTED SQUAREnBLACK LARGE SQUAREsWHITE LARGE SQUAREsBLACK VERY SMALL SQUARExWHITE V",
    "ERY SMALL SQUARExBLACK PENTAGONoWHITE PENTAGONiHEXAGONnBLACK HEXAGONnHORIZONTAL BLACK HEXAGONyBLACK LARGE CI",
    "RCLEmMEDIUM DIAMONDuWHITE MEDIUM DIAMONDuBLACK MEDIUM LOZENGEuWHITE MEDIUM LOZENGEuBLACK SMALL DIAMONDhLOZEN",
    "GEtWHITE SMALL LOZENGEtBLACK HORIZONTAL ELLIPSEyWHITE HORIZONTAL ELLIPSEyBLACK VERTICAL ELLIPSEwWHITE VERTIC",
    "AL ELLIPSEwLEFT ARROW WITH SMALL CIRCLEzdTHREE LEFTWARDS ARROWSwLEFT ARROW WITH CIRCLED PLUSzcONG LEFTWARDS ",
    "SQUIGGLE ARROWzdEFTWARDS TWO-HEADED ARROW WITH VERTICAL STROKEpDOUBLE VERTICAL STROKEzcFROM BARoTRIPLE DASH ",
    "ARROWzdARROW WITH DOTTED STEMlTAIL WITH VERTICAL STROKEpDOUBLE VERTICAL STROKEzsTWO-HEADED ARROW WITH TAILa ",
    "WITH VERTICAL STROKEpDOUBLE VERTICAL STROKEzzeARROW THROUGH XzaWAVE ARROW POINTING DIRECTLY LEFTziEQUALS SIG",
    "N ABOVE LEFTWARDS ARROWziREVERSE TILDE OPERATOR ABOVE LEFTWARDS ARROWztLEFTWARDS ARROW ABOVE REVERSE ALMOST ",
    "EQUAL TOzuRIGHTWARDS ARROW THROUGH GREATER-THANmSUPERSETziLEFTWARDS QUADRUPLE ARROWzaRIGHTWARDS QUADRUPLE AR",
    "ROWzaEVERSE TILDE OPERATOR ABOVE RIGHTWARDS ARROWztIGHTWARDS ARROW ABOVE REVERSE ALMOST EQUAL TOzvTILDE OPER",
    "ATOR ABOVE LEFTWARDS ARROWzlLEFTWARDS ARROW ABOVE ALMOST EQUAL TOpREVERSE TILDE OPERATORztRIGHTWARDS ARROW A",
    "BOVE REVERSE TILDE OPERATORzuDOWNWARDS TRIANGLE-HEADED ZIGZAG ARROWznSHORT SLANTED NORTH ARROWtBACKSLANTED S",
    "OUTH ARROWzeWHITE MEDIUM STARrBLACK SMALL STARqWHITE SMALL STARqBLACK RIGHT-POINTING PENTAGONzeWHITE RIGHT-P",
    "OINTING PENTAGONzeHEAVY LARGE CIRCLEmOVAL WITH OVAL INSIDEvCIRCLE WITH CIRCLE INSIDEuEaD SALTIREvSLANTED NOR",
    "TH ARROW WITH HOOKED HEADzlBACKSLANTED SOUTH ARROW WITH HOOKED TAILzpSLANTED NORTH ARROW WITH HORIZONTAL TAI",
    "LzpBACKSLANTED SOUTH ARROW WITH HORIZONTAL TAILzsENT ARROW POINTING DOWNWARDS THEN NORTH EASTzuSHORT BENT AR",
    "ROW POINTING DOWNWARDS THEN NORTH EASTzzbLEFTWARDS TRIANGLE-HEADED ARROWzgUPWARDS TRIANGLE-HEADED ARROWzeRIG",
    "HTWARDS TRIANGLE-HEADED ARROWzhDOWNWARDS TRIANGLE-HEADED ARROWzgLEFT RIGHT TRIANGLE-HEADED ARROWzhUP DOWN TR",
    "IANGLE-HEADED ARROWzeNORTH WEST TRIANGLE-HEADED ARROWzbEAST TRIANGLE-HEADED ARROWzhSOUTH EAST TRIANGLE-HEADE",
    "D ARROWzbWEST TRIANGLE-HEADED ARROWzhLEFTWARDS TRIANGLE-HEADED DASHED ARROWznUPWARDS TRIANGLE-HEADED DASHED ",
    "ARROWzlRIGHTWARDS TRIANGLE-HEADED DASHED ARROWzoDOWNWARDS TRIANGLE-HEADED DASHED ARROWznCLOCKWISE TRIANGLE-H",
    "EADED OPEN CIRCLE ARROWzsANTICLOCKWISE TRIANGLE-HEADED OPEN CIRCLE ARROWzwLEFTWARDS TRIANGLE-HEADED ARROW TO",
    " BARznUPWARDS TRIANGLE-HEADED ARROW TO BARzlRIGHTWARDS TRIANGLE-HEADED ARROW TO BARzoDOWNWARDS TRIANGLE-HEAD",
    "ED ARROW TO BAR"]⟩,
  ⟨0x2B76, [
    "aNORTH WEST TRIANGLE-HEADED ARROW TO BARziEAST TRIANGLE-HEADED ARROW TO BARzoSOUTH EAST TRIANGLE-HEADED ARRO",
    "W TO BARziWEST TRIANGLE-HEADED ARROW TO BARzoLEFTWARDS TRIANGLE-HEADED ARROW WITH DOUBLE HORIZONTAL STROKEzz",
    "lUPWARDS TRIANGLE-HEADED ARROW WITH DOUBLE HORIZONTAL STROKEzzjRIGHTWARDS TRIANGLE-HEADED ARROW WITH DOUBLE ",
    "HORIZONTAL STROKEzzmDOWNWARDS TRIANGLE-HEADED ARROW WITH DOUBLE HORIZONTAL STROKEzzlHORIZONTAL TAB KEYsVERTI",
    "CAL TAB KEYqLEFTWARDS TRIANGLE-HEADED ARROW OVER RIGHTWARDS TRIANGLE-HEADED ARROWzztUPWARDS TRIANGLE-HEADED ",
    "ARROW LEFTWARDS OF DOWNWARDS TRIANGLE-HEADED ARROWzzyRIGHTWARDS TRIANGLE-HEADED ARROW OVER LEFTWARDS TRIANGL",
    "E-HEADED ARROWzztDOWNWARDS TRIANGLE-HEADED ARROW LEFTWARDS OF UPWARDS TRIANGLE-HEADED ARROWzzyLEFTWARDS TRIA",
    "NGLE-HEADED PAIRED ARROWSzoUPWARDS TRIANGLE-HEADED PAIRED ARROWSzmRIGHTWARDS TRIANGLE-HEADED PAIRED ARROWSzp",
    "DOWNWARDS TRIANGLE-HEADED PAIRED ARROWSzoLEFTWARDS BLACK CIRCLED WHITE ARROWzkUPWARDS BLACK CIRCLED WHITE AR",
    "ROWziRIGHTWARDS BLACK CIRCLED WHITE ARROWzlDOWNWARDS BLACK CIRCLED WHITE ARROWzkANTICLOCKWISE TRIANGLE-HEADE",
    "D RIGHT U-SHAPED ARROWuBOTTOM U-SHAPED ARROWvLEFT U-SHAPED ARROWtTOP U-SHAPED ARROWzxRETURN LEFTeRIGHTmNEWLI",
    "NE LEFTeRIGHTnFOUR CORNER ARROWS CIRCLING ANTICLOCKWISEzqRIGHTWARDS BLACK ARROW"]⟩,
  ⟨0x2B97, [
    "aSYMBOL FOR TYPE A ELECTRONICSzeTHREE-D TOP-LIGHTED LEFTWARDS EQUILATERAL ARROWHEADzsRIGHT-LIGHTED UPWARDS E",
    "QUILATERAL ARROWHEADzsTOP-LIGHTED RIGHTWARDS EQUILATERAL ARROWHEADztLEFT-LIGHTED DOWNWARDS EQUILATERAL ARROW",
    "HEADzzcBLACK LEFTWARDS EQUILATERAL ARROWHEADzgUPWARDS EQUILATERAL ARROWHEADzeRIGHTWARDS EQUILATERAL ARROWHEA",
    "DzhDOWNWARDS EQUILATERAL ARROWHEADzmDOWNWARDS TRIANGLE-HEADED ARROW WITH LONG TIP LEFTWARDSjRIGHTWARDSzzgUPW",
    "ARDS TRIANGLE-HEADED ARROW WITH LONG TIP LEFTWARDSjRIGHTWARDSzzeLEFTWARDS TRIANGLE-HEADED ARROW WITH LONG TI",
    "P UPWARDSzzdRIGHTWARDS TRIANGLE-HEADED ARROW WITH LONG TIP UPWARDSzzeLEFTWARDS TRIANGLE-HEADED ARROW WITH LO",
    "NG TIP DOWNWARDSzzfRIGHTWARDS TRIANGLE-HEADED ARROW WITH LONG TIP DOWNWARDSzzgBLACK CURVED DOWNWARDS AND LEF",
    "TWARDS ARROWpRIGHTWARDS ARROWzfUPWARDS AND LEFTWARDS ARROWpRIGHTWARDS ARROWzdLEFTWARDS AND UPWARDS ARROWzcRI",
    "GHTWARDS AND UPWARDS ARROWzdLEFTWARDS AND DOWNWARDS ARROWzeRIGHTWARDS AND DOWNWARDS ARROWzsRIBBON ARROW DOWN",
    " LEFTeRIGHTkUP LEFTeRIGHTiLEFT UPhRIGHT UPiLEFT DOWNjRIGHT DOWNxUPWARDS WHITE ARROW FROM BAR WITH HORIZONTAL",
    " BARzv ARROWHEAD IN A RECTANGLE BOXzgOVERLAPPING WHITE SQUAREShAND BLACK SQUARESxBLACK SQUARESzaBALLOT BOX W",
    "ITH LIGHT XxCIRCLED XbBOLD XoBLACK SQUARE CENTREDoDIAMOND CENTREDvTURNED BLACK PENTAGONvHORIZONTAL BLACK OCT",
    "AGONyBLACK OCTAGONhMEDIUM UP-POINTING TRIANGLE CENTREDzdDOWN-POINTING TRIANGLE CENTREDzfLEFT-POINTING TRIANG",
    "LE CENTREDzfRIGHT-POINTING TRIANGLE CENTREDztNEPTUNE FORM TWOqTOP HALF BLACK CIRCLEvBOTTOM HALF BLACK CIRCLE",
    "yLIGHT FOUR POINTED BLACK CUSPzeROTATED LIGHT FOUR POINTED BLACK CUSPzmWHITE FOUR POINTED CUSPxROTATED WHITE",
    " FOUR POINTED CUSPzgSQUARE POSITION INDICATORzaUNCERTAINTY SIGNqGROUP MARKkPLUTO FORM TWOcHREEfFOURdIVEpTRAN",
    "SPLUTOkPROSERPINAkASTRAEAhHYGIEAgPHOLUSgNESSUSgWHITE MOON SELENArBLACK DIAMOND ON CROSSwTRUE LIGHT MOON ARTA",
    "uCUPIDOgHADESfZEUSeKRONOSgAPOLLONgDMETOShVULCANUSiPOSEIDONiLEFT HALF BLACK STARuRIGHT HALF BLACK STARvSTAR W",
    "ITH LEFT HALF BLACKpRIGHT HALF BLACKzbLEFTWARDS TWO-HEADED ARROW WITH TRIANGLE ARROWHEADSzzbUPWARDS TWO-HEAD",
    "ED ARROW WITH TRIANGLE ARROWHEADSzyRIGHTWARDS TWO-HEADED ARROW WITH TRIANGLE ARROWHEADSzzcDOWNWARDS TWO-HEAD",
    "ED ARROW WITH TRIANGLE ARROWHEADSzzbERIS FORM ONEdTWOnSEDNAfRUSSIAN ASTROLOGICAL SYMBOL VIGINTILEjNOVILEgQUI",
    "NTILEiBINOVILEiSENTAGONiTREDECILEzmEQUALS SIGN WITH INFINITY BELOWzgUNITED SYMBOLnSEPARATED SYMBOLqDOUBLED S",
    "YMBOLoPASSED SYMBOLnREVERSED RIGHT ANGLEuHELLSCHREIBER PAUSE SYMBOLzbGLAGOLITIC CAPITAL LETTER AZUdBUKYeVEDE",
    "eGLAGOLIhDOBROfYESTUfZHIVETEhDZELOfZEMLJAgIZHEdNITIAL IZHEmIbDJERVIgKAKOeLJUDIJEhMYSLITEhNASHIfONUdPOKOJIgRI",
    "TSIfSLOVOfTVRIDOgUKUdFRITUfHERUeOTUdPEcSHTAeTSIdCHRIVIgSHAdYERUbIdATIeSPIDERY HAkYUcSMALL YUSa WITH TAILtYOc",
    "IOTATED SMALL YUSrBIG YUShIOTATED BIG YUSpFITAeIZHITSAhSHTAPIChTROKUTASTI AmLATINATE MYSLITEqCAUDATE CHRIVIz",
    "eSMALL LETTER AZUdBUKYeVEDEeGLAGOLIhDOBROfYESTUfZHIVETEhDZELOfZEMLJAgIZHEdNITIAL IZHEmIbDJERVIgKAKOeLJUDIJEh",
    "MYSLITEhNASHIfONUdPOKOJIgRITSIfSLOVOfTVRIDOgUKUdFRITUfHERUeOTUdPEcSHTAeTSIdCHRIVIgSHAdYERUbIdATIeSPIDERY HAk",
    "YUcSMALL YUSa WITH TAILtYOcIOTATED SMALL YUSrBIG YUShIOTATED BIG YUSpFITAeIZHITSAhSHTAPIChTROKUTASTI AmLATIN",
    "ATE MYSLITEqCAUDATE CHRIVIznLATIN CAPITAL LETTER L WITH DOUBLE BARzhSMALL LETTER L WITH DOUBLE BARzfCAPITAL ",
    "LETTER L WITH MIDDLE TILDEtP WITH STROKEnR WITH TAILzbSMALL LETTER A WITH STROKEnT WITH DIAGONAL STROKEzkCAP",
    "ITAL LETTER H WITH DESCENDERzgSMALL LETTER H WITH DESCENDERzeCAPITAL LETTER K WITH DESCENDERzgSMALL LETTER K",
    " WITH DESCENDERzeCAPITAL LETTER Z WITH DESCENDERzgSMALL LETTER Z WITH DESCENDERzeCAPITAL LETTER ALPHAfM WITH",
    " HOOKlTURNED AaLPHAzcSMALL LETTER V WITH RIGHT HOOKzfCAPITAL LETTER W WITH HOOKzbSMALL LETTER W WITH HOOKlV ",
    "WITH CURLyCAPITAL LETTER HALF HvSMALL LETTER HALF HgTAILLESS PHImE WITH NOTCHmTURNED R WITH TAILsO WITH LOW ",
    "RING INSIDEzkLETTER SMALL CAPITAL TURNED EzeSUBSCRIPT SMALL LETTER JzfMODIFIER LETTER CAPITAL VzaLATIN CAPIT",
    "AL LETTER S WITH SWASH TAILrZ WITH SWASH TAILznCOPTIC CAPITAL LETTER ALFAtSMALL LETTER ALFArCAPITAL LETTER V",
    "IDAtSMALL LETTER VIDArCAPITAL LETTER GAMMAuSMALL LETTER GAMMAsCAPITAL LETTER DALDAuSMALL LETTER DALDAsCAPITA",
    "L LETTER EIEsSMALL LETTER EIEqCAPITAL LETTER SOUsSMALL LETTER SOUqCAPITAL LETTER ZATAtSMALL LETTER ZATArCAPI",
    "TAL LETTER HATEtSMALL LETTER HATErCAPITAL LETTER THETHEvSMALL LETTER THETHEtCAPITAL LETTER IAUDAuSMALL LETTE",
    "R IAUDAsCAPITAL LETTER KAPAtSMALL LETTER KAPArCAPITAL LETTER LAULAuSMALL LETTER LAULAsCAPITAL LETTER MIrSMAL",
    "L LETTER MIpCAPITAL LETTER NIrSMALL LETTER NIpCAPITAL LETTER KSIsSMALL LETTER KSIqCAPITAL LETTER OqSMALL LET",
    "TER OoCAPITAL LETTER PIrSMALL LETTER PIpCAPITAL LETTER ROrSMALL LETTER ROpCAPITAL LETTER SIMAtSMALL LETTER S",
    "IMArCAPITAL LETTER TAUsSMALL LETTER TAUqCAPITAL LETTER UArSMALL LETTER UApCAPITAL LETTER FIrSMALL LETTER FIp",
    "CAPITAL LETTER KHIsSMALL LETTER KHIqCAPITAL LETTER PSIsSMALL LETTER PSIqCAPITAL LETTER OOUsSMALL LETTER OOUq",
    "CAPITAL LETTER DIALECT-P ALEFzeSMALL LETTER DIALECT-P ALEFzcCAPITAL LETTER OLD COPTIC AINzeSMALL LETTER OLD ",
    "COPTIC AINzcCAPITAL LETTER CRYPTOGRAMMIC EIEzhSMALL LETTER CRYPTOGRAMMIC EIEzfCAPITAL LETTER DIALECT-P KAPAz",
    "eSMALL LETTER DIALECT-P KAPAzcCAPITAL LETTER DIALECT-P NIzcSMALL LETTER DIALECT-P NIzaCAPITAL LETTER CRYPTOG",
    "RAMMIC NIzgSMALL LETTER CRYPTOGRAMMIC NIzeCAPITAL LETTER OLD COPTIC OOUzeSMALL LETTER OLD COPTIC OOUzcCAPITA",
    "L LETTER SAMPIuSMALL LETTER SAMPIsCAPITAL LETTER CROSSED SHEIzcSMALL LETTER CROSSED SHEIzaCAPITAL LETTER OLD",
    " COPTIC SHEIzfSMALL LETTER OLD COPTIC SHEIzdCAPITAL LETTER OLD COPTIC ESHzeSMALL LETTER OLD COPTIC ESHzcCAPI",
    "TAL LETTER AKHMIMIC KHEIzdSMALL LETTER AKHMIMIC KHEIzbCAPITAL LETTER DIALECT-P HORIzeSMALL LETTER DIALECT-P ",
    "HORIzcCAPITAL LETTER OLD COPTIC HORIzfSMALL LETTER OLD COPTIC HORIzdCAPITAL LETTER OLD COPTIC HAzdSMALL LETT",
    "ER OLD COPTIC HAzbCAPITAL LETTER L-SHAPED HAzbSMALL LETTER L-SHAPED HAyCAPITAL LETTER OLD COPTIC HEIzeSMALL ",
    "LETTER OLD COPTIC HEIzcCAPITAL LETTER OLD COPTIC HATzeSMALL LETTER OLD COPTIC HATzcCAPITAL LETTER OLD COPTIC",
    " GANGIAzhSMALL LETTER OLD COPTIC GANGIAzfCAPITAL LETTER OLD COPTIC DJAzeSMALL LETTER OLD COPTIC DJAzcCAPITAL",
    " LETTER OLD COPTIC SHIMAzgSMALL LETTER OLD COPTIC SHIMAzeCAPITAL LETTER OLD NUBIAN SHIMAzgSMALL LETTER OLD N",
    "UBIAN SHIMAzeCAPITAL LETTER OLD NUBIAN NGIzeSMALL LETTER OLD NUBIAN NGIzcCAPITAL LETTER OLD NUBIAN NYIzeSMAL",
    "L LETTER OLD NUBIAN NYIzcCAPITAL LETTER OLD NUBIAN WAUzeSMALL LETTER OLD NUBIAN WAUzbYMBOL KAIdMI ROfPI ROfS",
    "TAUROShTAU ROgKHI ROgSHIMA SIMArCAPITAL LETTER CRYPTOGRAMMIC SHEIziSMALL LETTER CRYPTOGRAMMIC SHEIzgCAPITAL ",
    "LETTER CRYPTOGRAMMIC GANGIAzkSMALL LETTER CRYPTOGRAMMIC GANGIAziCOMBINING NI ABOVEiSPIRITUS ASPERfLENISxAPIT",
    "AL LETTER BOHAIRIC KHEIzdSMALL LETTER BOHAIRIC KHEI"]⟩,
  ⟨0x2CF9, [
    "aCOPTIC OLD NUBIAN FULL STOPjDIRECT QUESTION MARKuINDIRECT QUESTION MARKwVERSE DIVIDERyFRACTION ONE HALFqULL",
    " STOPjMORPHOLOGICAL DIVIDERzdGEORGIAN SMALL LETTER ANcBANdGANdDONdENcVINdZENdTANdINcKANdLASdMANdNARdONcPARdZ",
    "HAReRAEdSANdTARdUNcPHAReKHAReGHANeQARdSHINeCHINdANdJILdCILcHAReXANdJHANeHAEcEbIEdWEcHARcOE"]⟩,
  ⟨0x2D27, ["aGEORGIAN SMALL LETTER YN"]⟩,
  ⟨0x2D2D, ["aGEORGIAN SMALL LETTER AEN"]⟩,
  ⟨0x2D30, [
    "aTIFINAGH LETTER YAaBaHcGaHHfBERBER ACADEMY YAJsYAJbDaHbDaHeEYcAFbKdTUAREG YAKkYAKHHdHdBERBER ACADEMY YAHsTU",
    "AREG YAHkYAHHcAbKHeTUAREG YAKHlYAQdTUAREG YAQkYIbAZHeAHAGGAR YAZHmTUAREG YAZHlYALbMbNdTUAREG YAGNcNGlYAPcUbA",
    "RaRcGHeTUAREG YAGHlAYER YAGHjYASaSbHcTaHcCHcTTcVbWbYbZdTAWELLEMET YAZoYAZZdEbO"]⟩,
  ⟨0x2D6F, ["aTIFINAGH MODIFIER LETTER LABIALIZATION MARKzjSEPARATOR MARK"]⟩,
  ⟨0x2D7F, [
    "aTIFINAGH CONSONANT JOINERzaETHIOPIC SYLLABLE LOAdMOAdROAdSOAcHOAeBOAdTOAdCOAdNOAcYOAeGLOTTAL OAkZOAdDOAcDOA",
    "eJOAdTHOAeCHOAePHOAdOAdGGWAbIbEEcE"]⟩,
  ⟨0x2DA0, ["aETHIOPIC SYLLABLE SSAbUbIbAAcEEcEbO"]⟩,
  ⟨0x2DA8, ["aETHIOPIC SYLLABLE CCAbUbIbAAcEEcEbO"]⟩,
  ⟨0x2DB0, ["aETHIOPIC SYLLABLE ZZAbUbIbAAcEEcEbO"]⟩,
  ⟨0x2DB8, ["aETHIOPIC SYLLABLE CCHAbUbIbAAcEEcEbO"]⟩,
  ⟨0x2DC0, ["aETHIOPIC SYLLABLE QYAbUbIbAAcEEcEbO"]⟩,
  ⟨0x2DC8, ["aETHIOPIC SYLLABLE KYAbUbIbAAcEEcEbO"]⟩,
  ⟨0x2DD0, ["aETHIOPIC SYLLABLE XYAbUbIbAAcEEcEbO"]⟩,
  ⟨0x2DD8, ["aETHIOPIC SYLLABLE GYAbUbIbAAcEEcEbO"]⟩,
  ⟨0x2DE0, [
    "aCOMBINING CYRILLIC LETTER BEcVEcGHEdDEcZHEcEcKAcELbMbNcObPEcERbScTEcHAcTSEdCHEdSHAbCHAfFITAeES-TEfAbIEcDJER",
    "VfMONOGRAPH UKmYATcUcIOTIFIED AkLITTLE YUSkBIG YUShIOTIFIED BIG YUSzrRIGHT ANGLE SUBSTITUTION MARKERtDOTTED ",
    "SUBSTITUTION MARKERznLEFT SUBSTITUTION BRACKETzaRIGHT SUBSTITUTION BRACKETzbLEFT DOTTED SUBSTITUTION BRACKET",
    "zhRIGHT DOTTED SUBSTITUTION BRACKETzhAISED INTERPOLATION MARKERuDOTTED INTERPOLATION MARKERzjDOTTED TRANSPOS",
    "ITION MARKERzcLEFT TRANSPOSITION BRACKETzbRIGHT TRANSPOSITION BRACKETzbAISED SQUAREnLEFT RAISED OMISSION BRA",
    "CKETzdRIGHT RAISED OMISSION BRACKETzeEDITORIAL CORONISrPARAGRAPHOSlFORKED PARAGRAPHOSsREVERSED FORKED PARAGR",
    "APHOSzcHYPODIASTOLEmDOTTED OBELOSlWNWARDS ANCORAqUPWARDS ANCORAoDOTTED RIGHT-POINTING ANGLEzaUBLE OBLIQUE HY",
    "PHENvINVERTED INTERROBANGuPALM BRANCHlHYPHEN WITH DIAERESISvTILDE WITH RING ABOVEvLEFT LOW PARAPHRASE BRACKE",
    "TzcRIGHT LOW PARAPHRASE BRACKETzdTILDE WITH DOT ABOVEfBELOWuLEFT VERTICAL BAR WITH QUILLzdRIGHT VERTICAL BAR",
    " WITH QUILLzeTOP LEFT HALF BRACKETrRIGHT HALF BRACKETwBOTTOM LEFT HALF BRACKETrRIGHT HALF BRACKETzaLEFT SIDE",
    "WAYS U BRACKETxRIGHT SIDEWAYS U BRACKETyLEFT DOUBLE PARENTHESISxRIGHT DOUBLE PARENTHESISyTWO DOTS OVER ONE D",
    "OT PUNCTUATIONziONE DOT OVER TWO DOTS PUNCTUATIONziSQUARED FOUR DOT PUNCTUATIONzdFIVE DOT MARKnREVERSED QUES",
    "TION MARKwVERTICAL TILDEoRING POINTkWORD SEPARATOR MIDDLE DOTzaTURNED COMMAmRAISED DOTdCOMMAmTURNED SEMICOLO",
    "NqDAGGER WITH LEFT GUARDkRIGHT GUARDxTURNED DAGGERmOP HALF SECTION SIGNuWO-EM DASHkHREE-EM DASHnSTENOGRAPHIC",
    " FULL STOPwVERTICAL SIX DOTSrWIGGLY VERTICAL LINEuCAPITULUMjDOUBLE HYPHENnREVERSED COMMAoDOUBLE LOW-REVERSED",
    "-9 QUOTATION MARKzkASH WITH LEFT UPTURNuOUBLE SUSPENSION MARKwINVERTED LOW KAVYKAa WITH KAVYKA ABOVEzmLOW KA",
    "VYKAa WITH DOTtDOUBLE STACKED COMMAsTTED SOLIDUSoTRIPLE DAGGERnMEDIEVAL COMMAoPARAGRAPHUS MARKpUNCTUS ELEVAT",
    "US MARKvCORNISH VERSE DIVIDERuROSS PATTY WITH RIGHT CROSSBARoLEFT CROSSBARzfTIRONIAN SIGN CAPITAL ETyMEDIEVA",
    "L EXCLAMATION MARKqQUESTION MARKwLEFT SQUARE BRACKET WITH STROKEzgRIGHT SQUARE BRACKET WITH STROKEzhLEFT SQU",
    "ARE BRACKET WITH DOUBLE STROKEznRIGHT SQUARE BRACKET WITH DOUBLE STROKEzoTOP HALF LEFT PARENTHESISqRIGHT PAR",
    "ENTHESISzbBOTTOM HALF LEFT PARENTHESISqRIGHT PARENTHESISzeOBLIQUE HYPHEN"]⟩,
  ⟨0x2E80, [
    "aCJK RADICAL REPEATgCLIFFfSECOND ONEdTWOcHREEmPERSONgBOXdTABLEfKNIFE ONEdTWOjDIVINATIONkSEALdMALL ONEdTWOjLA",
    "ME ONEdTWOcHREEfFOURjSNAKEfTHREADgSNOUT ONEdTWOjHEART ONEdTWOiANDeRAP"]⟩,
  ⟨0x2E9B, [
    "aCJK RADICAL CHOKEfSUNdMOONeDEATHfMOTHERgCIVILIANiWATER ONEdTWOjFIREePAW ONEdTWOhSIMPLIFIED HALF TREE TRUNKz",
    "bCOWdDOGdJADEeBOLT OF CLOTHnEYEdSPIRIT ONEdTWOkBAMBOOgSILKeC-SIMPLIFIED SILKrNET ONEdTWOcHREEfFOURiMESHeSHEE",
    "PfRAMdEWEdOLDdBRUSH ONEdTWOjMEATdORTARgGRASS ONEdTWOcHREElTIGERfCLOTHEShWEST ONEdTWOiC-SIMPLIFIED SEEqSIMPLI",
    "FIED HORNpHORNeC-SIMPLIFIED SPEECHfHELLsFOOTeC-SIMPLIFIED CARTrSIMPLIFIED WALKpWALK ONEdTWOiCITYd-SIMPLIFIED",
    " GOLDrLONG ONEdTWOiC-SIMPLIFIED LONGeGATErMOUND ONEdTWOjRAINeBLUEeC-SIMPLIFIED TANNED LEATHERoLEAFeWINDeFLYq",
    "EAT ONEdTWOcHREEjC-SIMPLIFIED EATqHEADeC-SIMPLIFIED HORSEsBONEeGHOSTfC-SIMPLIFIED FISHeBIRDeSALTrSIMPLIFIED ",
    "WHEATfYELLOWrC-SIMPLIFIED FROGrJ-SIMPLIFIED EVENrC-SIMPLIFIED EVENrJ-SIMPLIFIED TOOTHsC-SIMPLIFIED TOOTHsJ-S",
    "IMPLIFIED DRAGONtC-SIMPLIFIED DRAGONtTURTLEgJ-SIMPLIFIED TURTLEtC-SIMPLIFIED TURTLE"]⟩,
  ⟨0x2F00, [
    "aKANGXI RADICAL ONEdLINEeDOTdSLASHeECONDgHOOKeTWOdLIDdMANdLEGSeENTEReIGHTfDOWN BOXiCOVERfICEdTABLEfOPEN BOXi",
    "KNIFEfPOWERfWRAPeSPOONfRIGHT OPEN BOXoHIDING ENCLOSUREqTENdDIVINATIONkSEALeCLIFFfPRIVATEhAGAINfMOUTHfENCLOSU",
    "REiARTHfSCHOLARhGOa SLOWLYjEVENINGhBIGdWOMANfCHILDfROOFeINCHeSMALLfLAMEeCORPSEgSPROUTgMOUNTAINiRIVERfWORKeON",
    "ESELFhTURBANgDRYdSHORT THREADmDOTTED CLIFFmLONG STRIDElTWO HANDSjSHOOTfBOWdSNOUTfBRISTLEhSTEPeHEARTeALBERDhD",
    "OOReHANDeBRANCHgRAPdSCRIPTgDIPPERgAXEdSQUAREgNOTdSUNcAYdMOONeTREEeLACKeSTOPeDEATHfWEAPONgDO NOTgCOMPAREhFURd",
    "CLANeSTEAMfWATERfFIREeCLAWeFATHERgDOUBLE XiHALF TREE TRUNKpSLICEfFANGeCOWdDOGdPROFOUNDiJADEeMELONfTILEeSWEET",
    "fLIFEeUSEdFIELDfBOLT OF CLOTHnSICKNESSiDOTTED TENTlWHITEfSKINeDISHeEYEdSPEARfARROWfSTONEePIRITgTRACKfGRAINfC",
    "AVEeSTANDfBAMBOOgRICEeSILKeJARdNETdSHEEPfFEATHERhOLDdANDdPLOWeEARdBRUSHfMEATdINISTERiSELFeARRIVEgMORTARgTONG",
    "UEgOPPOSEgBOATeSTOPPINGiCOLORfGRASSfTIGERfINSECTgBLOODfWALK ENCLOSUREoCLOTHEShWESTeSEEdHORNeSPEECHgVALLEYgBE",
    "ANePIGdBADGERgSHELLfREDcUNdFOOTeBODYeCARTeBITTERgMORNINGhWALKeCITYeWINEeDISTINGUISHlVILLAGEhGOLDeLONGeGATEeM",
    "OUNDfSLAVEeHORT TAILED BIRDrRAINeBLUEeWRONGfFACEeLEATHERhTANNED LEATHERoLEEKeSOUNDfLEAFeWINDeFLYdEATdHEADeFR",
    "AGRANTiHORSEfBONEeTALLeHAIReFIGHTfSACRIFICIAL WINEqCAULDRONiGHOSTfFISHeBIRDeSALTeDEEReWHEATfHEMPeYELLOWgMILL",
    "ETgBLACKfEMBROIDERYkFROGeTRIPODgDRUMeRATdNOSEeEVENeTOOTHfDRAGONgTURTLEgFLUTE"]⟩,
  ⟨0x2FF0, [
    "aIDEOGRAPHIC DESCRIPTION CHARACTER LEFT TO RIGHTnABOVE TO BELOWoLEFT TO MIDDLE AND RIGHTyABOVE TO MIDDLE AND",
    " BELOWzaFULL SURROUNDnSURROUND FROM ABOVEfBELOWfLEFTeUPPER LEFTeRIGHTlLOWER LEFTyOVERLAID"]⟩]

end DomainPolicy.CharacterName
