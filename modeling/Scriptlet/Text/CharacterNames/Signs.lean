/-
# Names of characters from U+2000 to U+24FF

Punctuation, letter-like signs, arrows and mathematical signs.
-/

namespace Scriptlet.Text.CharacterNames

def signs : List (Nat × String) :=
  [(0x2000, "aEN QUADaEM QUADaEN SPACEaEM SPACEaTHREE-PER-EM SPACEaFOUR-PER-EM SPACE"),
   (0x2006, "aSIX-PER-EM SPACEaFIGURE SPACEaPUNCTUATION SPACEaTHIN SPACEaHAIR SPACE"),
   (0x200B, "aZERO WIDTH SPACEcNON-JOINERcJOINERaLEFT-TO-RIGHT MARKaRIGHT-TO-LEFT MARK"),
   (0x2010, "aHYPHENaNON-BREAKING HYPHENaFIGURE DASHaEN DASHaEM DASHaHORIZONTAL BAR"),
   (0x2016, "aDOUBLE VERTICAL LINEbLOW LINEaLEFT SINGLE QUOTATION MARK"),
   (0x2019, "aRIGHT SINGLE QUOTATION MARKaSINGLE LOW-9 QUOTATION MARK"),
   (0x201B, "bHIGH-REVERSED-9 QUOTATION MARKaLEFT DOUBLE QUOTATION MARK"),
   (0x201D, "aRIGHT DOUBLE QUOTATION MARKaDOUBLE LOW-9 QUOTATION MARK"),
   (0x201F, "bHIGH-REVERSED-9 QUOTATION MARKaDAGGERaDOUBLE DAGGERaBULLETaTRIANGULAR BULLET"),
   (0x2024, "aONE DOT LEADERaTWO DOT LEADERaHORIZONTAL ELLIPSISaHYPHENATION POINT"),
   (0x2028, "aLINE SEPARATORaPARAGRAPH SEPARATORaLEFT-TO-RIGHT EMBEDDING"),
   (0x202B, "aRIGHT-TO-LEFT EMBEDDINGaPOP DIRECTIONAL FORMATTINGaLEFT-TO-RIGHT OVERRIDE"),
   (0x202E, "aRIGHT-TO-LEFT OVERRIDEaNARROW NO-BREAK SPACEaPER MILLE SIGNbTEN THOUSAND SIGN"),
   (0x2032, "aPRIMEaDOUBLE PRIMEaTRIPLE PRIMEaREVERSED PRIMEbDOUBLE PRIMEbTRIPLE PRIMEaCARET"),
   (0x2039, "aSINGLE LEFT-POINTING ANGLE QUOTATION MARKbRIGHT-POINTING ANGLE QUOTATION MARK"),
   (0x203B, "aREFERENCE MARKaDOUBLE EXCLAMATION MARKaINTERROBANGaOVERLINEaUNDERTIE"),
   (0x2040, "aCHARACTER TIEaCARET INSERTION POINTaASTERISMaHYPHEN BULLETaFRACTION SLASH"),
   (0x2045, "aLEFT SQUARE BRACKET WITH QUILLaRIGHT SQUARE BRACKET WITH QUILL"),
   (0x2047, "aDOUBLE QUESTION MARKaQUESTION EXCLAMATION MARKaEXCLAMATION QUESTION MARK"),
   (0x204A, "aTIRONIAN SIGN ETaREVERSED PILCROW SIGNaBLACK LEFTWARDS BULLET"),
   (0x204D, "bRIGHTWARDS BULLETaLOW ASTERISKaREVERSED SEMICOLONaCLOSE UP"),
   (0x2051, "aTWO ASTERISKS ALIGNED VERTICALLYaCOMMERCIAL MINUS SIGNaSWUNG DASH"),
   (0x2054, "aINVERTED UNDERTIEaFLOWER PUNCTUATION MARKaTHREE DOT PUNCTUATION"),
   (0x2057, "aQUADRUPLE PRIMEaFOUR DOT PUNCTUATIONaFIVE DOT PUNCTUATIONaTWO DOT PUNCTUATION"),
   (0x205B, "aFOUR DOT MARKaDOTTED CROSSaTRICOLONaVERTICAL FOUR DOTS"),
   (0x205F, "aMEDIUM MATHEMATICAL SPACEaWORD JOINERaFUNCTION APPLICATIONaINVISIBLE TIMES"),
   (0x2063, "bSEPARATORbPLUS"),
   (0x2066, "aLEFT-TO-RIGHT ISOLATEaRIGHT-TO-LEFT ISOLATEaFIRST STRONG ISOLATE"),
   (0x2069, "aPOP DIRECTIONAL ISOLATEaINHIBIT SYMMETRIC SWAPPINGaACTIVATE SYMMETRIC SWAPPING"),
   (0x206C, "aINHIBIT ARABIC FORM SHAPINGaACTIVATE ARABIC FORM SHAPINGaNATIONAL DIGIT SHAPES"),
   (0x206F, "aNOMINAL DIGIT SHAPESaSUPERSCRIPT ZERObLATIN SMALL LETTER I"),
   (0x2074, "bFOURbFIVEbSIXbSEVENbEIGHTbNINEbPLUS SIGNbMINUSbEQUALS SIGNbLEFT PARENTHESIS"),
   (0x207E, "bRIGHT PARENTHESISbLATIN SMALL LETTER NaSUBSCRIPT ZERObONEbTWObTHREEbFOURbFIVE"),
   (0x2086, "bSIXbSEVENbEIGHTbNINEbPLUS SIGNbMINUSbEQUALS SIGNbLEFT PARENTHESIS"),
   (0x208E, "bRIGHT PARENTHESIS"),
   (0x2090, "aLATIN SUBSCRIPT SMALL LETTER AeEeOeXeSCHWAeHeKeLeMeNePeSeT"),
   (0x20A0, "aEURO-CURRENCY SIGNaCOLON SIGNaCRUZEIRO SIGNaFRENCH FRANC SIGNaLIRA SIGN"),
   (0x20A5, "aMILL SIGNaNAIRA SIGNaPESETA SIGNaRUPEE SIGNaWON SIGNaNEW SHEQEL SIGNaDONG SIGN"),
   (0x20AC, "aEURO SIGNaKIP SIGNaTUGRIK SIGNaDRACHMA SIGNaGERMAN PENNY SIGNaPESO SIGN"),
   (0x20B2, "aGUARANI SIGNaAUSTRAL SIGNaHRYVNIA SIGNaCEDI SIGNaLIVRE TOURNOIS SIGN"),
   (0x20B7, "aSPESMILO SIGNaTENGE SIGNaINDIAN RUPEE SIGNaTURKISH LIRA SIGNaNORDIC MARK SIGN"),
   (0x20BC, "aMANAT SIGNaRUBLE SIGNaLARI SIGNaBITCOIN SIGNaSOM SIGN"),
   (0x20D0, "aCOMBINING LEFT HARPOON ABOVEbRIGHT HARPOON ABOVEbLONG VERTICAL LINE OVERLAY"),
   (0x20D3, "bSHORT VERTICAL LINE OVERLAYbANTICLOCKWISE ARROW ABOVEbCLOCKWISE ARROW ABOVE"),
   (0x20D6, "bLEFT ARROW ABOVEbRIGHT ARROW ABOVEbRING OVERLAYbCLOCKWISE RING OVERLAY"),
   (0x20DA, "bANTICLOCKWISE RING OVERLAYbTHREE DOTS ABOVEbFOUR DOTS ABOVEbENCLOSING CIRCLE"),
   (0x20DE, "cSQUAREcDIAMONDcCIRCLE BACKSLASHbLEFT RIGHT ARROW ABOVEbENCLOSING SCREENcKEYCAP"),
   (0x20E4, "cUPWARD POINTING TRIANGLEbREVERSE SOLIDUS OVERLAY"),
   (0x20E6, "bDOUBLE VERTICAL STROKE OVERLAYbANNUITY SYMBOLbTRIPLE UNDERDOT"),
   (0x20E9, "bWIDE BRIDGE ABOVEbLEFTWARDS ARROW OVERLAYbLONG DOUBLE SOLIDUS OVERLAY"),
   (0x20EC, "bRIGHTWARDS HARPOON WITH BARB DOWNWARDSbLEFTWARDS HARPOON WITH BARB DOWNWARDS"),
   (0x20EE, "bLEFT ARROW BELOWbRIGHT ARROW BELOWbASTERISK ABOVE"),
   (0x2100, "aACCOUNT OFaADDRESSED TO THE SUBJECTaDOUBLE-STRUCK CAPITAL CaDEGREE CELSIUS"),
   (0x2104, "aCENTRE LINE SYMBOLaCARE OFaCADA UNAaEULER CONSTANTaSCRUPLEaDEGREE FAHRENHEIT"),
   (0x210A, "aSCRIPT SMALL GbCAPITAL HaBLACK-LETTER CAPITAL HaDOUBLE-STRUCK CAPITAL H"),
   (0x210E, "aPLANCK CONSTANTcOVER TWO PIaSCRIPT CAPITAL IaBLACK-LETTER CAPITAL I"),
   (0x2112, "aSCRIPT CAPITAL LbSMALL LaL B BAR SYMBOLaDOUBLE-STRUCK CAPITAL NaNUMERO SIGN"),
   (0x2117, "aSOUND RECORDING COPYRIGHTaSCRIPT CAPITAL PaDOUBLE-STRUCK CAPITAL PcQ"),
   (0x211B, "aSCRIPT CAPITAL RaBLACK-LETTER CAPITAL RaDOUBLE-STRUCK CAPITAL R"),
   (0x211E, "aPRESCRIPTION TAKEaRESPONSEaSERVICE MARKaTELEPHONE SIGNaTRADE MARK SIGN"),
   (0x2123, "aVERSICLEaDOUBLE-STRUCK CAPITAL ZaOUNCE SIGNaOHM SIGNaINVERTED OHM SIGN"),
   (0x2128, "aBLACK-LETTER CAPITAL ZaTURNED GREEK SMALL LETTER IOTAaKELVIN SIGN"),
   (0x212B, "aANGSTROM SIGNaSCRIPT CAPITAL BaBLACK-LETTER CAPITAL CaESTIMATED SYMBOL"),
   (0x212F, "aSCRIPT SMALL EbCAPITAL EcFaTURNED CAPITAL FaSCRIPT CAPITAL MbSMALL O"),
   (0x2135, "aALEF SYMBOLaBET SYMBOLaGIMEL SYMBOLaDALET SYMBOLaINFORMATION SOURCE"),
   (0x213A, "aROTATED CAPITAL QaFACSIMILE SIGNaDOUBLE-STRUCK SMALL PIcGAMMAbCAPITAL GAMMAcPI"),
   (0x2140, "bN-ARY SUMMATIONaTURNED SANS-SERIF CAPITAL GdLaREVERSED SANS-SERIF CAPITAL L"),
   (0x2144, "aTURNED SANS-SERIF CAPITAL YaDOUBLE-STRUCK ITALIC CAPITAL DcSMALL DdEdIdJ"),
   (0x214A, "aPROPERTY LINEaTURNED AMPERSANDaPER SIGNaAKTIESELSKABaTURNED SMALL F"),
   (0x214F, "aSYMBOL FOR SAMARITAN SOURCEaVULGAR FRACTION ONE SEVENTHdNINTHdTENTHdTHIRD"),
   (0x2154, "cTWO THIRDScONE FIFTHcTWO FIFTHScTHREE FIFTHScFOUR FIFTHScONE SIXTHcFIVE SIXTHS"),
   (0x215B, "cONE EIGHTHcTHREE EIGHTHScFIVE EIGHTHScSEVEN EIGHTHSaFRACTION NUMERATOR ONE"),
   (0x2160, "aROMAN NUMERAL ONEcTWOcTHREEcFOURcFIVEcSIXcSEVENcEIGHTcNINEcTENcELEVENcTWELVE"),
   (0x216C, "cFIFTYcONE HUNDREDcFIVE HUNDREDcONE THOUSANDaSMALL ROMAN NUMERAL ONEdTWOdTHREE"),
   (0x2173, "dFOURdFIVEdSIXdSEVENdEIGHTdNINEdTENdELEVENdTWELVEdFIFTYdONE HUNDRED"),
   (0x217E, "dFIVE HUNDREDdONE THOUSANDaROMAN NUMERAL ONE THOUSAND C DcFIVE THOUSAND"),
   (0x2182, "cTEN THOUSANDcREVERSED ONE HUNDREDaLATIN SMALL LETTER REVERSED C"),
   (0x2185, "aROMAN NUMERAL SIX LATE FORMcFIFTY EARLY FORMdTHOUSANDcONE HUNDRED THOUSAND"),
   (0x2189, "aVULGAR FRACTION ZERO THIRDSaTURNED DIGIT TWOcTHREE"),
   (0x2190, "aLEFTWARDS ARROWaUPWARDS ARROWaRIGHTWARDS ARROWaDOWNWARDS ARROW"),
   (0x2194, "aLEFT RIGHT ARROWaUP DOWN ARROWaNORTH WEST ARROWbEAST ARROWaSOUTH EAST ARROW"),
   (0x2199, "bWEST ARROWaLEFTWARDS ARROW WITH STROKEaRIGHTWARDS ARROW WITH STROKE"),
   (0x219C, "aLEFTWARDS WAVE ARROWaRIGHTWARDS WAVE ARROWaLEFTWARDS TWO HEADED ARROW"),
   (0x219F, "aUPWARDS TWO HEADED ARROWaRIGHTWARDS TWO HEADED ARROW"),
   (0x21A1, "aDOWNWARDS TWO HEADED ARROWaLEFTWARDS ARROW WITH TAIL"),
   (0x21A3, "aRIGHTWARDS ARROW WITH TAILaLEFTWARDS ARROW FROM BARaUPWARDS ARROW FROM BAR"),
   (0x21A6, "aRIGHTWARDS ARROW FROM BARaDOWNWARDS ARROW FROM BARaUP DOWN ARROW WITH BASE"),
   (0x21A9, "aLEFTWARDS ARROW WITH HOOKaRIGHTWARDS ARROW WITH HOOKaLEFTWARDS ARROW WITH LOOP"),
   (0x21AC, "aRIGHTWARDS ARROW WITH LOOPaLEFT RIGHT WAVE ARROWcARROW WITH STROKE"),
   (0x21AF, "aDOWNWARDS ZIGZAG ARROWaUPWARDS ARROW WITH TIP LEFTWARDSeRIGHTWARDS"),
   (0x21B2, "aDOWNWARDS ARROW WITH TIP LEFTWARDSeRIGHTWARDS"),
   (0x21B4, "aRIGHTWARDS ARROW WITH CORNER DOWNWARDSaDOWNWARDS ARROW WITH CORNER LEFTWARDS"),
   (0x21B6, "aANTICLOCKWISE TOP SEMICIRCLE ARROWaCLOCKWISE TOP SEMICIRCLE ARROW"),
   (0x21B8, "aNORTH WEST ARROW TO LONG BAR"),
   (0x21B9, "aLEFTWARDS ARROW TO BAR OVER RIGHTWARDS ARROW TO BAR"),
   (0x21BA, "aANTICLOCKWISE OPEN CIRCLE ARROWaCLOCKWISE OPEN CIRCLE ARROW"),
   (0x21BC, "aLEFTWARDS HARPOON WITH BARB UPWARDSeDOWNWARDS"),
   (0x21BE, "aUPWARDS HARPOON WITH BARB RIGHTWARDSeLEFTWARDS"),
   (0x21C0, "aRIGHTWARDS HARPOON WITH BARB UPWARDSeDOWNWARDS"),
   (0x21C2, "aDOWNWARDS HARPOON WITH BARB RIGHTWARDSeLEFTWARDS"),
   (0x21C4, "aRIGHTWARDS ARROW OVER LEFTWARDS ARROW"),
   (0x21C5, "aUPWARDS ARROW LEFTWARDS OF DOWNWARDS ARROW"),
   (0x21C6, "aLEFTWARDS ARROW OVER RIGHTWARDS ARROWbPAIRED ARROWSaUPWARDS PAIRED ARROWS"),
   (0x21C9, "aRIGHTWARDS PAIRED ARROWSaDOWNWARDS PAIRED ARROWS"),
   (0x21CB, "aLEFTWARDS HARPOON OVER RIGHTWARDS HARPOON"),
   (0x21CC, "aRIGHTWARDS HARPOON OVER LEFTWARDS HARPOONaLEFTWARDS DOUBLE ARROW WITH STROKE"),
   (0x21CE, "aLEFT RIGHT DOUBLE ARROW WITH STROKEaRIGHTWARDS DOUBLE ARROW WITH STROKE"),
   (0x21D0, "aLEFTWARDS DOUBLE ARROWaUPWARDS DOUBLE ARROWaRIGHTWARDS DOUBLE ARROW"),
   (0x21D3, "aDOWNWARDS DOUBLE ARROWaLEFT RIGHT DOUBLE ARROWaUP DOWN DOUBLE ARROW"),
   (0x21D6, "aNORTH WEST DOUBLE ARROWbEAST DOUBLE ARROWaSOUTH EAST DOUBLE ARROW"),
   (0x21D9, "bWEST DOUBLE ARROWaLEFTWARDS TRIPLE ARROWaRIGHTWARDS TRIPLE ARROW"),
   (0x21DC, "aLEFTWARDS SQUIGGLE ARROWaRIGHTWARDS SQUIGGLE ARROW"),
   (0x21DE, "aUPWARDS ARROW WITH DOUBLE STROKEaDOWNWARDS ARROW WITH DOUBLE STROKE"),
   (0x21E0, "aLEFTWARDS DASHED ARROWaUPWARDS DASHED ARROWaRIGHTWARDS DASHED ARROW"),
   (0x21E3, "aDOWNWARDS DASHED ARROWaLEFTWARDS ARROW TO BARaRIGHTWARDS ARROW TO BAR"),
   (0x21E6, "aLEFTWARDS WHITE ARROWaUPWARDS WHITE ARROWaRIGHTWARDS WHITE ARROW"),
   (0x21E9, "aDOWNWARDS WHITE ARROWaUPWARDS WHITE ARROW FROM BARdON PEDESTAL"),
   (0x21EC, "fWITH HORIZONTAL BARgVERTICAL BARcDOUBLE ARROWeON PEDESTAL"),
   (0x21F0, "aRIGHTWARDS WHITE ARROW FROM WALLaNORTH WEST ARROW TO CORNER"),
   (0x21F2, "aSOUTH EAST ARROW TO CORNERaUP DOWN WHITE ARROWaRIGHT ARROW WITH SMALL CIRCLE"),
   (0x21F5, "aDOWNWARDS ARROW LEFTWARDS OF UPWARDS ARROWaTHREE RIGHTWARDS ARROWS"),
   (0x21F7, "aLEFTWARDS ARROW WITH VERTICAL STROKEaRIGHTWARDS ARROW WITH VERTICAL STROKE"),
   (0x21F9, "aLEFT RIGHT ARROW WITH VERTICAL STROKE"),
   (0x21FA, "aLEFTWARDS ARROW WITH DOUBLE VERTICAL STROKE"),
   (0x21FB, "aRIGHTWARDS ARROW WITH DOUBLE VERTICAL STROKE"),
   (0x21FC, "aLEFT RIGHT ARROW WITH DOUBLE VERTICAL STROKEaLEFTWARDS OPEN-HEADED ARROW"),
   (0x21FE, "aRIGHTWARDS OPEN-HEADED ARROWaLEFT RIGHT OPEN-HEADED ARROWaFOR ALLaCOMPLEMENT"),
   (0x2202, "aPARTIAL DIFFERENTIALaTHERE EXISTSbDOES NOT EXISTaEMPTY SETaINCREMENTaNABLA"),
   (0x2208, "aELEMENT OFaNOT AN ELEMENT OFaSMALL ELEMENT OFaCONTAINS AS MEMBER"),
   (0x220C, "aDOES NOT CONTAIN AS MEMBERaSMALL CONTAINS AS MEMBERaEND OF PROOFaN-ARY PRODUCT"),
   (0x2210, "bCOPRODUCTbSUMMATIONaMINUS SIGNaMINUS-OR-PLUS SIGNaDOT PLUSaDIVISION SLASH"),
   (0x2216, "aSET MINUSaASTERISK OPERATORaRING OPERATORaBULLET OPERATORaSQUARE ROOT"),
   (0x221B, "aCUBE ROOTaFOURTH ROOTaPROPORTIONAL TOaINFINITYaRIGHT ANGLEaANGLE"),
   (0x2221, "aMEASURED ANGLEaSPHERICAL ANGLEaDIVIDESaDOES NOT DIVIDEaPARALLEL TO"),
   (0x2226, "aNOT PARALLEL TOaLOGICAL ANDbORaINTERSECTIONaUNIONaINTEGRALaDOUBLE INTEGRAL"),
   (0x222D, "aTRIPLE INTEGRALaCONTOUR INTEGRALaSURFACE INTEGRALaVOLUME INTEGRAL"),
   (0x2231, "aCLOCKWISE INTEGRALbCONTOUR INTEGRALaANTICLOCKWISE CONTOUR INTEGRALaTHEREFORE"),
   (0x2235, "aBECAUSEaRATIOaPROPORTIONaDOT MINUSaEXCESSaGEOMETRIC PROPORTIONaHOMOTHETIC"),
   (0x223C, "aTILDE OPERATORaREVERSED TILDEaINVERTED LAZY SaSINE WAVEaWREATH PRODUCT"),
   (0x2241, "aNOT TILDEaMINUS TILDEaASYMPTOTICALLY EQUAL TOaNOT ASYMPTOTICALLY EQUAL TO"),
   (0x2245, "aAPPROXIMATELY EQUAL TObBUT NOT ACTUALLY EQUAL TO"),
   (0x2247, "aNEITHER APPROXIMATELY NOR ACTUALLY EQUAL TOaALMOST EQUAL TO"),
   (0x2249, "aNOT ALMOST EQUAL TOaALMOST EQUAL OR EQUAL TOaTRIPLE TILDEaALL EQUAL TO"),
   (0x224D, "aEQUIVALENT TOaGEOMETRICALLY EQUIVALENT TOaDIFFERENCE BETWEEN"),
   (0x2250, "aAPPROACHES THE LIMITaGEOMETRICALLY EQUAL TO"),
   (0x2252, "aAPPROXIMATELY EQUAL TO OR THE IMAGE OFaIMAGE OF OR APPROXIMATELY EQUAL TO"),
   (0x2254, "aCOLON EQUALSaEQUALS COLONaRING IN EQUAL TObEQUAL TOaCORRESPONDS TOaESTIMATES"),
   (0x225A, "aEQUIANGULAR TOaSTAR EQUALSaDELTA EQUAL TOaEQUAL TO BY DEFINITIONaMEASURED BY"),
   (0x225F, "aQUESTIONED EQUAL TOaNOT EQUAL TOaIDENTICAL TOaNOT IDENTICAL TO"),
   (0x2263, "aSTRICTLY EQUIVALENT TOaLESS-THAN OR EQUAL TOaGREATER-THAN OR EQUAL TO"),
   (0x2266, "aLESS-THAN OVER EQUAL TOaGREATER-THAN OVER EQUAL TOaLESS-THAN BUT NOT EQUAL TO"),
   (0x2269, "aGREATER-THAN BUT NOT EQUAL TOaMUCH LESS-THANbGREATER-THANaBETWEEN"),
   (0x226D, "aNOT EQUIVALENT TObLESS-THANbGREATER-THANaNEITHER LESS-THAN NOR EQUAL TO"),
   (0x2271, "bGREATER-THAN NOR EQUAL TOaLESS-THAN OR EQUIVALENT TO"),
   (0x2273, "aGREATER-THAN OR EQUIVALENT TOaNEITHER LESS-THAN NOR EQUIVALENT TO"),
   (0x2275, "bGREATER-THAN NOR EQUIVALENT TOaLESS-THAN OR GREATER-THAN"),
   (0x2277, "aGREATER-THAN OR LESS-THANaNEITHER LESS-THAN NOR GREATER-THAN"),
   (0x2279, "bGREATER-THAN NOR LESS-THANaPRECEDESaSUCCEEDSaPRECEDES OR EQUAL TO"),
   (0x227D, "aSUCCEEDS OR EQUAL TOaPRECEDES OR EQUIVALENT TOaSUCCEEDS OR EQUIVALENT TO"),
   (0x2280, "aDOES NOT PRECEDEcSUCCEEDaSUBSET OFaSUPERSET OFaNOT A SUBSET OFcSUPERSET OF"),
   (0x2286, "aSUBSET OF OR EQUAL TOaSUPERSET OF OR EQUAL TOaNEITHER A SUBSET OF NOR EQUAL TO"),
   (0x2289, "cSUPERSET OF NOR EQUAL TOaSUBSET OF WITH NOT EQUAL TO"),
   (0x228B, "aSUPERSET OF WITH NOT EQUAL TOaMULTISETbMULTIPLICATIONbUNIONaSQUARE IMAGE OF"),
   (0x2290, "bORIGINAL OFbIMAGE OF OR EQUAL TObORIGINAL OF OR EQUAL TObCAPbCUPaCIRCLED PLUS"),
   (0x2296, "bMINUSbTIMESbDIVISION SLASHbDOT OPERATORbRING OPERATORbASTERISK OPERATORbEQUALS"),
   (0x229D, "bDASHaSQUARED PLUSbMINUSbTIMESbDOT OPERATORaRIGHT TACKaLEFT TACKaDOWN TACK"),
   (0x22A5, "aUP TACKaASSERTIONaMODELSaTRUEaFORCESaTRIPLE VERTICAL BAR RIGHT TURNSTILE"),
   (0x22AB, "aDOUBLE VERTICAL BAR DOUBLE RIGHT TURNSTILEaDOES NOT PROVEaNOT TRUE"),
   (0x22AE, "aDOES NOT FORCEaNEGATED DOUBLE VERTICAL BAR DOUBLE RIGHT TURNSTILE"),
   (0x22B0, "aPRECEDES UNDER RELATIONaSUCCEEDS UNDER RELATIONaNORMAL SUBGROUP OF"),
   (0x22B3, "aCONTAINS AS NORMAL SUBGROUPaNORMAL SUBGROUP OF OR EQUAL TO"),
   (0x22B5, "aCONTAINS AS NORMAL SUBGROUP OR EQUAL TOaORIGINAL OFaIMAGE OFaMULTIMAP"),
   (0x22B9, "aHERMITIAN CONJUGATE MATRIXaINTERCALATEaXORaNANDaNORaRIGHT ANGLE WITH ARC"),
   (0x22BF, "bTRIANGLEaN-ARY LOGICAL ANDcORbINTERSECTIONbUNIONaDIAMOND OPERATORaDOT OPERATOR"),
   (0x22C6, "aSTAR OPERATORaDIVISION TIMESaBOWTIEaLEFT NORMAL FACTOR SEMIDIRECT PRODUCT"),
   (0x22CA, "aRIGHT NORMAL FACTOR SEMIDIRECT PRODUCTaLEFT SEMIDIRECT PRODUCT"),
   (0x22CC, "aRIGHT SEMIDIRECT PRODUCTaREVERSED TILDE EQUALSaCURLY LOGICAL ORcAND"),
   (0x22D0, "aDOUBLE SUBSETbSUPERSETbINTERSECTIONbUNIONaPITCHFORKaEQUAL AND PARALLEL TO"),
   (0x22D6, "aLESS-THAN WITH DOTaGREATER-THAN WITH DOTaVERY MUCH LESS-THANcGREATER-THAN"),
   (0x22DA, "aLESS-THAN EQUAL TO OR GREATER-THANaGREATER-THAN EQUAL TO OR LESS-THAN"),
   (0x22DC, "aEQUAL TO OR LESS-THANdGREATER-THANdPRECEDESdSUCCEEDSaDOES NOT PRECEDE OR EQUAL"),
   (0x22E1, "cSUCCEED OR EQUALaNOT SQUARE IMAGE OF OR EQUAL TOcORIGINAL OF OR EQUAL TO"),
   (0x22E4, "aSQUARE IMAGE OF OR NOT EQUAL TObORIGINAL OF OR NOT EQUAL TO"),
   (0x22E6, "aLESS-THAN BUT NOT EQUIVALENT TOaGREATER-THAN BUT NOT EQUIVALENT TO"),
   (0x22E8, "aPRECEDES BUT NOT EQUIVALENT TOaSUCCEEDS BUT NOT EQUIVALENT TO"),
   (0x22EA, "aNOT NORMAL SUBGROUP OFaDOES NOT CONTAIN AS NORMAL SUBGROUP"),
   (0x22EC, "aNOT NORMAL SUBGROUP OF OR EQUAL TO"),
   (0x22ED, "aDOES NOT CONTAIN AS NORMAL SUBGROUP OR EQUALaVERTICAL ELLIPSIS"),
   (0x22EF, "aMIDLINE HORIZONTAL ELLIPSISaUP RIGHT DIAGONAL ELLIPSIS"),
   (0x22F1, "aDOWN RIGHT DIAGONAL ELLIPSISaELEMENT OF WITH LONG HORIZONTAL STROKE"),
   (0x22F3, "dVERTICAL BAR AT END OF HORIZONTAL STROKE"),
   (0x22F4, "aSMALL ELEMENT OF WITH VERTICAL BAR AT END OF HORIZONTAL STROKE"),
   (0x22F5, "aELEMENT OF WITH DOT ABOVEdOVERBARaSMALL ELEMENT OF WITH OVERBAR"),
   (0x22F8, "aELEMENT OF WITH UNDERBARdTWO HORIZONTAL STROKES"),
   (0x22FA, "aCONTAINS WITH LONG HORIZONTAL STROKEcVERTICAL BAR AT END OF HORIZONTAL STROKE"),
   (0x22FC, "aSMALL CONTAINS WITH VERTICAL BAR AT END OF HORIZONTAL STROKE"),
   (0x22FD, "aCONTAINS WITH OVERBARaSMALL CONTAINS WITH OVERBARaZ NOTATION BAG MEMBERSHIP"),
   (0x2300, "aDIAMETER SIGNaELECTRIC ARROWaHOUSEaUP ARROWHEADaDOWN ARROWHEADaPROJECTIVE"),
   (0x2306, "aPERSPECTIVEaWAVY LINEaLEFT CEILINGaRIGHT CEILINGaLEFT FLOORaRIGHT FLOOR"),
   (0x230C, "aBOTTOM RIGHT CROPbLEFT CROPaTOP RIGHT CROPbLEFT CROPaREVERSED NOT SIGN"),
   (0x2311, "aSQUARE LOZENGEaARCaSEGMENTaSECTORaTELEPHONE RECORDERaPOSITION INDICATOR"),
   (0x2317, "aVIEWDATA SQUAREaPLACE OF INTEREST SIGNaTURNED NOT SIGNaWATCHaHOURGLASS"),
   (0x231C, "aTOP LEFT CORNERbRIGHT CORNERaBOTTOM LEFT CORNERbRIGHT CORNERaTOP HALF INTEGRAL"),
   (0x2321, "aBOTTOM HALF INTEGRALaFROWNaSMILEaUP ARROWHEAD BETWEEN TWO HORIZONTAL BARS"),
   (0x2325, "aOPTION KEYaERASE TO THE RIGHTaX IN A RECTANGLE BOXaKEYBOARD"),
   (0x2329, "aLEFT-POINTING ANGLE BRACKETaRIGHT-POINTING ANGLE BRACKETaERASE TO THE LEFT"),
   (0x232C, "aBENZENE RINGaCYLINDRICITYaALL AROUND-PROFILEaSYMMETRYaTOTAL RUNOUT"),
   (0x2331, "aDIMENSION ORIGINaCONICAL TAPERaSLOPEaCOUNTERBOREaCOUNTERSINK"),
   (0x2336, "aAPL FUNCTIONAL SYMBOL I-BEAMdSQUISH QUADdQUAD EQUALeDIVIDEeDIAMONDeJOTeCIRCLE"),
   (0x233D, "dCIRCLE STILEeJOTdSLASH BARdBACKSLASH BARdQUAD SLASHeBACKSLASHeLESS-THAN"),
   (0x2344, "eGREATER-THANdLEFTWARDS VANEdRIGHTWARDS VANEdQUAD LEFTWARDS ARROW"),
   (0x2348, "eRIGHTWARDS ARROWdCIRCLE BACKSLASHdDOWN TACK UNDERBARdDELTA STILE"),
   (0x234C, "dQUAD DOWN CARETeDELTAdDOWN TACK JOTdUPWARDS VANEdQUAD UPWARDS ARROW"),
   (0x2351, "dUP TACK OVERBARdDEL STILEdQUAD UP CARETeDELdUP TACK JOTdDOWNWARDS VANE"),
   (0x2357, "dQUAD DOWNWARDS ARROWdQUOTE UNDERBARdDELTA UNDERBARdDIAMOND UNDERBAR"),
   (0x235B, "dJOT UNDERBARdCIRCLE UNDERBARdUP SHOE JOTdQUOTE QUADdCIRCLE STARdQUAD COLON"),
   (0x2361, "dUP TACK DIAERESISdDEL DIAERESISdSTAR DIAERESISdJOT DIAERESISdCIRCLE DIAERESIS"),
   (0x2366, "dDOWN SHOE STILEdLEFT SHOE STILEdTILDE DIAERESISdGREATER-THAN DIAERESIS"),
   (0x236A, "dCOMMA BARdDEL TILDEdZILDEdSTILE TILDEdSEMICOLON UNDERBARdQUAD NOT EQUAL"),
   (0x2370, "eQUESTIONdDOWN CARET TILDEdUP CARET TILDEdIOTAdRHOdOMEGAdALPHA UNDERBAR"),
   (0x2377, "dEPSILON UNDERBARdIOTA UNDERBARdOMEGA UNDERBARdALPHAaNOT CHECK MARK"),
   (0x237C, "aRIGHT ANGLE WITH DOWNWARDS ZIGZAG ARROWaSHOULDERED OPEN BOXaBELL SYMBOL"),
   (0x237F, "aVERTICAL LINE WITH MIDDLE DOTaINSERTION SYMBOLaCONTINUOUS UNDERLINE SYMBOL"),
   (0x2382, "aDISCONTINUOUS UNDERLINE SYMBOLaEMPHASIS SYMBOLaCOMPOSITION SYMBOL"),
   (0x2385, "aWHITE SQUARE WITH CENTRE VERTICAL LINEaENTER SYMBOLaALTERNATIVE KEY SYMBOL"),
   (0x2388, "aHELM SYMBOLaCIRCLED HORIZONTAL BAR WITH NOTCHbTRIANGLE DOWN"),
   (0x238B, "aBROKEN CIRCLE WITH NORTHWEST ARROWaUNDO SYMBOLaMONOSTABLE SYMBOL"),
   (0x238E, "aHYSTERESIS SYMBOLaOPEN-CIRCUIT-OUTPUT H-TYPE SYMBOLbL-TYPE SYMBOL"),
   (0x2391, "aPASSIVE-PULL-DOWN-OUTPUT SYMBOLaPASSIVE-PULL-UP-OUTPUT SYMBOL"),
   (0x2393, "aDIRECT CURRENT SYMBOL FORM TWOaSOFTWARE-FUNCTION SYMBOL"),
   (0x2395, "aAPL FUNCTIONAL SYMBOL QUADaDECIMAL SEPARATOR KEY SYMBOLaPREVIOUS PAGE"),
   (0x2398, "aNEXT PAGEaPRINT SCREEN SYMBOLaCLEAR SCREEN SYMBOLaLEFT PARENTHESIS UPPER HOOK"),
   (0x239C, "cEXTENSIONcLOWER HOOKaRIGHT PARENTHESIS UPPER HOOKcEXTENSIONcLOWER HOOK"),
   (0x23A1, "aLEFT SQUARE BRACKET UPPER CORNERdEXTENSIONdLOWER CORNER"),
   (0x23A4, "aRIGHT SQUARE BRACKET UPPER CORNERdEXTENSIONdLOWER CORNER"),
   (0x23A7, "aLEFT CURLY BRACKET UPPER HOOKdMIDDLE PIECEdLOWER HOOKaCURLY BRACKET EXTENSION"),
   (0x23AB, "aRIGHT CURLY BRACKET UPPER HOOKdMIDDLE PIECEdLOWER HOOKaINTEGRAL EXTENSION"),
   (0x23AF, "aHORIZONTAL LINE EXTENSIONaUPPER LEFT OR LOWER RIGHT CURLY BRACKET SECTION"),
   (0x23B1, "bRIGHT OR LOWER LEFT CURLY BRACKET SECTIONaSUMMATION TOPbBOTTOM"),
   (0x23B4, "aTOP SQUARE BRACKETaBOTTOM SQUARE BRACKETdOVER TOP SQUARE BRACKET"),
   (0x23B7, "aRADICAL SYMBOL BOTTOMaLEFT VERTICAL BOX LINEaRIGHT VERTICAL BOX LINE"),
   (0x23BA, "aHORIZONTAL SCAN LINE-1cLINE-3cLINE-7cLINE-9"),
   (0x23BE, "aDENTISTRY SYMBOL LIGHT VERTICAL AND TOP RIGHTfBOTTOM RIGHTeWITH CIRCLE"),
   (0x23C1, "dDOWN AND HORIZONTAL WITH CIRCLEdUP AND HORIZONTAL WITH CIRCLE"),
   (0x23C3, "dVERTICAL WITH TRIANGLEdDOWN AND HORIZONTAL WITH TRIANGLE"),
   (0x23C5, "dUP AND HORIZONTAL WITH TRIANGLEdVERTICAL AND WAVE"),
   (0x23C7, "dDOWN AND HORIZONTAL WITH WAVEdUP AND HORIZONTAL WITH WAVEdDOWN AND HORIZONTAL"),
   (0x23CA, "dUP AND HORIZONTALdVERTICAL AND TOP LEFTfBOTTOM LEFTaSQUARE FOOTaRETURN SYMBOL"),
   (0x23CF, "aEJECT SYMBOLaVERTICAL LINE EXTENSIONaMETRICAL BREVEbLONG OVER SHORT"),
   (0x23D3, "bSHORT OVER LONGbLONG OVER TWO SHORTSbTWO SHORTS OVER LONGdJOINEDbTRISEME"),
   (0x23D8, "bTETRASEMEbPENTASEMEaEARTH GROUNDaFUSEaTOP PARENTHESISaBOTTOM PARENTHESIS"),
   (0x23DE, "aTOP CURLY BRACKETaBOTTOM CURLY BRACKETaTOP TORTOISE SHELL BRACKET"),
   (0x23E1, "aBOTTOM TORTOISE SHELL BRACKETaWHITE TRAPEZIUMaBENZENE RING WITH CIRCLE"),
   (0x23E4, "aSTRAIGHTNESSaFLATNESSaAC CURRENTaELECTRICAL INTERSECTION"),
   (0x23E8, "aDECIMAL EXPONENT SYMBOLaBLACK RIGHT-POINTING DOUBLE TRIANGLE"),
   (0x23EA, "bLEFT-POINTING DOUBLE TRIANGLEbUP-POINTING DOUBLE TRIANGLE"),
   (0x23EC, "bDOWN-POINTING DOUBLE TRIANGLEbRIGHT-POINTING DOUBLE TRIANGLE WITH VERTICAL BAR"),
   (0x23EE, "bLEFT-POINTING DOUBLE TRIANGLE WITH VERTICAL BAR"),
   (0x23EF, "bRIGHT-POINTING TRIANGLE WITH DOUBLE VERTICAL BARaALARM CLOCKaSTOPWATCH"),
   (0x23F2, "aTIMER CLOCKaHOURGLASS WITH FLOWING SANDaBLACK MEDIUM LEFT-POINTING TRIANGLE"),
   (0x23F5, "cRIGHT-POINTING TRIANGLEcUP-POINTING TRIANGLEcDOWN-POINTING TRIANGLE"),
   (0x23F8, "aDOUBLE VERTICAL BARaBLACK SQUARE FOR STOPbCIRCLE FOR RECORDaPOWER SYMBOL"),
   (0x23FC, "bON-OFF SYMBOLbON SYMBOLbSLEEP SYMBOLaOBSERVER EYE SYMBOLaSYMBOL FOR NULL"),
   (0x2401, "cSTART OF HEADINGeTEXTcEND OF TEXTeTRANSMISSIONcENQUIRYcACKNOWLEDGEcBELL"),
   (0x2408, "cBACKSPACEcHORIZONTAL TABULATIONcLINE FEEDcVERTICAL TABULATIONcFORM FEED"),
   (0x240D, "cCARRIAGE RETURNcSHIFT OUTdINcDATA LINK ESCAPEcDEVICE CONTROL ONEeTWOeTHREE"),
   (0x2414, "eFOURcNEGATIVE ACKNOWLEDGEcSYNCHRONOUS IDLEcEND OF TRANSMISSION BLOCKcCANCEL"),
   (0x2419, "cEND OF MEDIUMcSUBSTITUTEcESCAPEcFILE SEPARATORcGROUP SEPARATOR"),
   (0x241E, "cRECORD SEPARATORcUNIT SEPARATORcSPACEcDELETEaBLANK SYMBOLaOPEN BOX"),
   (0x2424, "aSYMBOL FOR NEWLINEcDELETE FORM TWOcSUBSTITUTE FORM TWO"),
   (0x2440, "aOCR HOOKbCHAIRbFORKbINVERTED FORKbBELT BUCKLEbBOW TIE"),
   (0x2446, "bBRANCH BANK IDENTIFICATIONbAMOUNT OF CHECKbDASHbCUSTOMER ACCOUNT NUMBER"),
   (0x244A, "bDOUBLE BACKSLASH"),
   (0x2460, "aCIRCLED DIGIT ONEcTWOcTHREEcFOURcFIVEcSIXcSEVENcEIGHTcNINEbNUMBER TENcELEVEN"),
   (0x246B, "cTWELVEcTHIRTEENcFOURTEENcFIFTEENcSIXTEENcSEVENTEENcEIGHTEENcNINETEENcTWENTY"),
   (0x2474, "aPARENTHESIZED DIGIT ONEcTWOcTHREEcFOURcFIVEcSIXcSEVENcEIGHTcNINEbNUMBER TEN"),
   (0x247E, "cELEVENcTWELVEcTHIRTEENcFOURTEENcFIFTEENcSIXTEENcSEVENTEENcEIGHTEENcNINETEEN"),
   (0x2487, "cTWENTYaDIGIT ONE FULL STOPbTWO FULL STOPbTHREE FULL STOPbFOUR FULL STOP"),
   (0x248C, "bFIVE FULL STOPbSIX FULL STOPbSEVEN FULL STOPbEIGHT FULL STOPbNINE FULL STOP"),
   (0x2491, "aNUMBER TEN FULL STOPbELEVEN FULL STOPbTWELVE FULL STOPbTHIRTEEN FULL STOP"),
   (0x2495, "bFOURTEEN FULL STOPbFIFTEEN FULL STOPbSIXTEEN FULL STOPbSEVENTEEN FULL STOP"),
   (0x2499, "bEIGHTEEN FULL STOPbNINETEEN FULL STOPbTWENTY FULL STOP"),
   (0x249C, "aPARENTHESIZED LATIN SMALL LETTER AeBeCeDeEeFeGeHeIeJeKeLeMeNeOePeQeReSeTeUeVeW"),
   (0x24B3, "eXeYeZaCIRCLED LATIN CAPITAL LETTER AeBeCeDeEeFeGeHeIeJeKeLeMeNeOePeQeReSeTeUeV"),
   (0x24CC, "eWeXeYeZcSMALL LETTER AeBeCeDeEeFeGeHeIeJeKeLeMeNeOePeQeReSeTeUeVeWeXeYeZ"),
   (0x24EA, "bDIGIT ZEROaNEGATIVE CIRCLED NUMBER ELEVENdTWELVEdTHIRTEENdFOURTEENdFIFTEEN"),
   (0x24F0, "dSIXTEENdSEVENTEENdEIGHTEENdNINETEENdTWENTYaDOUBLE CIRCLED DIGIT ONEdTWOdTHREE"),
   (0x24F8, "dFOURdFIVEdSIXdSEVENdEIGHTdNINEcNUMBER TENaNEGATIVE CIRCLED DIGIT ZERO")]

end Scriptlet.Text.CharacterNames
