/-
# Names of characters from U+2500 to U+2BFF

Shapes, dingbats, Braille and further mathematical signs.
-/

namespace Scriptlet.Text.CharacterNames

def shapes : List (Nat × String) :=
  [(0x2500, "aBOX DRAWINGS LIGHT HORIZONTALcHEAVY HORIZONTALcLIGHT VERTICALcHEAVY VERTICAL"),
   (0x2504, "cLIGHT TRIPLE DASH HORIZONTALcHEAVY TRIPLE DASH HORIZONTAL"),
   (0x2506, "cLIGHT TRIPLE DASH VERTICALcHEAVY TRIPLE DASH VERTICAL"),
   (0x2508, "cLIGHT QUADRUPLE DASH HORIZONTALcHEAVY QUADRUPLE DASH HORIZONTAL"),
   (0x250A, "cLIGHT QUADRUPLE DASH VERTICALcHEAVY QUADRUPLE DASH VERTICAL"),
   (0x250C, "cLIGHT DOWN AND RIGHTcDOWN LIGHT AND RIGHT HEAVYdHEAVY AND RIGHT LIGHT"),
   (0x250F, "cHEAVY DOWN AND RIGHTcLIGHT DOWN AND LEFTcDOWN LIGHT AND LEFT HEAVY"),
   (0x2512, "dHEAVY AND LEFT LIGHTcHEAVY DOWN AND LEFTcLIGHT UP AND RIGHT"),
   (0x2515, "cUP LIGHT AND RIGHT HEAVYdHEAVY AND RIGHT LIGHTcHEAVY UP AND RIGHT"),
   (0x2518, "cLIGHT UP AND LEFTcUP LIGHT AND LEFT HEAVYdHEAVY AND LEFT LIGHT"),
   (0x251B, "cHEAVY UP AND LEFTcLIGHT VERTICAL AND RIGHTcVERTICAL LIGHT AND RIGHT HEAVY"),
   (0x251E, "cUP HEAVY AND RIGHT DOWN LIGHTcDOWN HEAVY AND RIGHT UP LIGHT"),
   (0x2520, "cVERTICAL HEAVY AND RIGHT LIGHTcDOWN LIGHT AND RIGHT UP HEAVY"),
   (0x2522, "cUP LIGHT AND RIGHT DOWN HEAVYcHEAVY VERTICAL AND RIGHTcLIGHT VERTICAL AND LEFT"),
   (0x2525, "cVERTICAL LIGHT AND LEFT HEAVYcUP HEAVY AND LEFT DOWN LIGHT"),
   (0x2527, "cDOWN HEAVY AND LEFT UP LIGHTcVERTICAL HEAVY AND LEFT LIGHT"),
   (0x2529, "cDOWN LIGHT AND LEFT UP HEAVYcUP LIGHT AND LEFT DOWN HEAVY"),
   (0x252B, "cHEAVY VERTICAL AND LEFTcLIGHT DOWN AND HORIZONTAL"),
   (0x252D, "cLEFT HEAVY AND RIGHT DOWN LIGHTcRIGHT HEAVY AND LEFT DOWN LIGHT"),
   (0x252F, "cDOWN LIGHT AND HORIZONTAL HEAVYdHEAVY AND HORIZONTAL LIGHT"),
   (0x2531, "cRIGHT LIGHT AND LEFT DOWN HEAVYcLEFT LIGHT AND RIGHT DOWN HEAVY"),
   (0x2533, "cHEAVY DOWN AND HORIZONTALcLIGHT UP AND HORIZONTAL"),
   (0x2535, "cLEFT HEAVY AND RIGHT UP LIGHTcRIGHT HEAVY AND LEFT UP LIGHT"),
   (0x2537, "cUP LIGHT AND HORIZONTAL HEAVYdHEAVY AND HORIZONTAL LIGHT"),
   (0x2539, "cRIGHT LIGHT AND LEFT UP HEAVYcLEFT LIGHT AND RIGHT UP HEAVY"),
   (0x253B, "cHEAVY UP AND HORIZONTALcLIGHT VERTICAL AND HORIZONTAL"),
   (0x253D, "cLEFT HEAVY AND RIGHT VERTICAL LIGHTcRIGHT HEAVY AND LEFT VERTICAL LIGHT"),
   (0x253F, "cVERTICAL LIGHT AND HORIZONTAL HEAVYcUP HEAVY AND DOWN HORIZONTAL LIGHT"),
   (0x2541, "cDOWN HEAVY AND UP HORIZONTAL LIGHTcVERTICAL HEAVY AND HORIZONTAL LIGHT"),
   (0x2543, "cLEFT UP HEAVY AND RIGHT DOWN LIGHTcRIGHT UP HEAVY AND LEFT DOWN LIGHT"),
   (0x2545, "cLEFT DOWN HEAVY AND RIGHT UP LIGHTcRIGHT DOWN HEAVY AND LEFT UP LIGHT"),
   (0x2547, "cDOWN LIGHT AND UP HORIZONTAL HEAVYcUP LIGHT AND DOWN HORIZONTAL HEAVY"),
   (0x2549, "cRIGHT LIGHT AND LEFT VERTICAL HEAVYcLEFT LIGHT AND RIGHT VERTICAL HEAVY"),
   (0x254B, "cHEAVY VERTICAL AND HORIZONTALcLIGHT DOUBLE DASH HORIZONTAL"),
   (0x254D, "cHEAVY DOUBLE DASH HORIZONTALcLIGHT DOUBLE DASH VERTICAL"),
   (0x254F, "cHEAVY DOUBLE DASH VERTICALcDOUBLE HORIZONTALdVERTICAL"),
   (0x2552, "cDOWN SINGLE AND RIGHT DOUBLEdDOUBLE AND RIGHT SINGLEcDOUBLE DOWN AND RIGHT"),
   (0x2555, "cDOWN SINGLE AND LEFT DOUBLEdDOUBLE AND LEFT SINGLEcDOUBLE DOWN AND LEFT"),
   (0x2558, "cUP SINGLE AND RIGHT DOUBLEdDOUBLE AND RIGHT SINGLEcDOUBLE UP AND RIGHT"),
   (0x255B, "cUP SINGLE AND LEFT DOUBLEdDOUBLE AND LEFT SINGLEcDOUBLE UP AND LEFT"),
   (0x255E, "cVERTICAL SINGLE AND RIGHT DOUBLEdDOUBLE AND RIGHT SINGLE"),
   (0x2560, "cDOUBLE VERTICAL AND RIGHTcVERTICAL SINGLE AND LEFT DOUBLE"),
   (0x2562, "dDOUBLE AND LEFT SINGLEcDOUBLE VERTICAL AND LEFT"),
   (0x2564, "cDOWN SINGLE AND HORIZONTAL DOUBLEdDOUBLE AND HORIZONTAL SINGLE"),
   (0x2566, "cDOUBLE DOWN AND HORIZONTALcUP SINGLE AND HORIZONTAL DOUBLE"),
   (0x2568, "dDOUBLE AND HORIZONTAL SINGLEcDOUBLE UP AND HORIZONTAL"),
   (0x256A, "cVERTICAL SINGLE AND HORIZONTAL DOUBLEdDOUBLE AND HORIZONTAL SINGLE"),
   (0x256C, "cDOUBLE VERTICAL AND HORIZONTALcLIGHT ARC DOWN AND RIGHTgLEFTeUP AND LEFTgRIGHT"),
   (0x2571, "dDIAGONAL UPPER RIGHT TO LOWER LEFTfLEFT TO LOWER RIGHTeCROSSdLEFTdUPdRIGHT"),
   (0x2577, "dDOWNcHEAVY LEFTdUPdRIGHTdDOWNcLIGHT LEFT AND HEAVY RIGHTdUP AND HEAVY DOWN"),
   (0x257E, "cHEAVY LEFT AND LIGHT RIGHTdUP AND LIGHT DOWNaUPPER HALF BLOCK"),
   (0x2581, "aLOWER ONE EIGHTH BLOCKcQUARTER BLOCKbTHREE EIGHTHS BLOCKbHALF BLOCK"),
   (0x2585, "bFIVE EIGHTHS BLOCKbTHREE QUARTERS BLOCKbSEVEN EIGHTHS BLOCKaFULL BLOCK"),
   (0x2589, "aLEFT SEVEN EIGHTHS BLOCKbTHREE QUARTERS BLOCKbFIVE EIGHTHS BLOCKbHALF BLOCK"),
   (0x258D, "bTHREE EIGHTHS BLOCKbONE QUARTER BLOCKcEIGHTH BLOCKaRIGHT HALF BLOCK"),
   (0x2591, "aLIGHT SHADEaMEDIUM SHADEaDARK SHADEaUPPER ONE EIGHTH BLOCK"),
   (0x2595, "aRIGHT ONE EIGHTH BLOCKaQUADRANT LOWER LEFTcRIGHTbUPPER LEFT"),
   (0x2599, "dAND LOWER LEFT AND LOWER RIGHTfRIGHTeUPPER RIGHT AND LOWER LEFTiRIGHTcRIGHT"),
   (0x259E, "dAND LOWER LEFTgAND LOWER RIGHTaBLACK SQUAREaWHITE SQUAREcWITH ROUNDED CORNERS"),
   (0x25A3, "cCONTAINING BLACK SMALL SQUAREaSQUARE WITH HORIZONTAL FILLcVERTICAL FILL"),
   (0x25A6, "cORTHOGONAL CROSSHATCH FILLcUPPER LEFT TO LOWER RIGHT FILL"),
   (0x25A8, "dRIGHT TO LOWER LEFT FILLcDIAGONAL CROSSHATCH FILLaBLACK SMALL SQUARE"),
   (0x25AB, "aWHITE SMALL SQUAREaBLACK RECTANGLEaWHITE RECTANGLEaBLACK VERTICAL RECTANGLE"),
   (0x25AF, "aWHITE VERTICAL RECTANGLEaBLACK PARALLELOGRAMaWHITE PARALLELOGRAM"),
   (0x25B2, "aBLACK UP-POINTING TRIANGLEaWHITE UP-POINTING TRIANGLE"),
   (0x25B4, "aBLACK UP-POINTING SMALL TRIANGLEaWHITE UP-POINTING SMALL TRIANGLE"),
   (0x25B6, "aBLACK RIGHT-POINTING TRIANGLEaWHITE RIGHT-POINTING TRIANGLE"),
   (0x25B8, "aBLACK RIGHT-POINTING SMALL TRIANGLEaWHITE RIGHT-POINTING SMALL TRIANGLE"),
   (0x25BA, "aBLACK RIGHT-POINTING POINTERaWHITE RIGHT-POINTING POINTER"),
   (0x25BC, "aBLACK DOWN-POINTING TRIANGLEaWHITE DOWN-POINTING TRIANGLE"),
   (0x25BE, "aBLACK DOWN-POINTING SMALL TRIANGLEaWHITE DOWN-POINTING SMALL TRIANGLE"),
   (0x25C0, "aBLACK LEFT-POINTING TRIANGLEaWHITE LEFT-POINTING TRIANGLE"),
   (0x25C2, "aBLACK LEFT-POINTING SMALL TRIANGLEaWHITE LEFT-POINTING SMALL TRIANGLE"),
   (0x25C4, "aBLACK LEFT-POINTING POINTERaWHITE LEFT-POINTING POINTERaBLACK DIAMOND"),
   (0x25C7, "aWHITE DIAMONDcCONTAINING BLACK SMALL DIAMONDaFISHEYEaLOZENGEaWHITE CIRCLE"),
   (0x25CC, "aDOTTED CIRCLEaCIRCLE WITH VERTICAL FILLaBULLSEYEaBLACK CIRCLE"),
   (0x25D0, "aCIRCLE WITH LEFT HALF BLACKcRIGHT HALF BLACKcLOWER HALF BLACKcUPPER HALF BLACK"),
   (0x25D4, "dRIGHT QUADRANT BLACKcALL BUT UPPER LEFT QUADRANT BLACKaLEFT HALF BLACK CIRCLE"),
   (0x25D7, "aRIGHT HALF BLACK CIRCLEaINVERSE BULLETbWHITE CIRCLE"),
   (0x25DA, "aUPPER HALF INVERSE WHITE CIRCLEaLOWER HALF INVERSE WHITE CIRCLE"),
   (0x25DC, "aUPPER LEFT QUADRANT CIRCULAR ARCbRIGHT QUADRANT CIRCULAR ARC"),
   (0x25DE, "aLOWER RIGHT QUADRANT CIRCULAR ARCbLEFT QUADRANT CIRCULAR ARCaUPPER HALF CIRCLE"),
   (0x25E1, "aLOWER HALF CIRCLEaBLACK LOWER RIGHT TRIANGLEcLEFT TRIANGLEbUPPER LEFT TRIANGLE"),
   (0x25E5, "cRIGHT TRIANGLEaWHITE BULLETaSQUARE WITH LEFT HALF BLACKcRIGHT HALF BLACK"),
   (0x25E9, "cUPPER LEFT DIAGONAL HALF BLACKcLOWER RIGHT DIAGONAL HALF BLACK"),
   (0x25EB, "aWHITE SQUARE WITH VERTICAL BISECTING LINEbUP-POINTING TRIANGLE WITH DOT"),
   (0x25ED, "aUP-POINTING TRIANGLE WITH LEFT HALF BLACKdRIGHT HALF BLACKaLARGE CIRCLE"),
   (0x25F0, "aWHITE SQUARE WITH UPPER LEFT QUADRANTdLOWER LEFT QUADRANTeRIGHT QUADRANT"),
   (0x25F3, "dUPPER RIGHT QUADRANTbCIRCLE WITH UPPER LEFT QUADRANTdLOWER LEFT QUADRANT"),
   (0x25F6, "eRIGHT QUADRANTdUPPER RIGHT QUADRANTaUPPER LEFT TRIANGLEbRIGHT TRIANGLE"),
   (0x25FA, "aLOWER LEFT TRIANGLEaWHITE MEDIUM SQUAREaBLACK MEDIUM SQUARE"),
   (0x25FD, "aWHITE MEDIUM SMALL SQUAREaBLACK MEDIUM SMALL SQUAREaLOWER RIGHT TRIANGLE"),
   (0x2600, "aBLACK SUN WITH RAYSaCLOUDaUMBRELLAaSNOWMANaCOMETaBLACK STARaWHITE STAR"),
   (0x2607, "aLIGHTNINGaTHUNDERSTORMaSUNaASCENDING NODEaDESCENDING NODEaCONJUNCTION"),
   (0x260D, "aOPPOSITIONaBLACK TELEPHONEaWHITE TELEPHONEaBALLOT BOXcWITH CHECKdXaSALTIRE"),
   (0x2614, "aUMBRELLA WITH RAIN DROPSaHOT BEVERAGEaWHITE SHOGI PIECEaBLACK SHOGI PIECE"),
   (0x2618, "aSHAMROCKaREVERSED ROTATED FLORAL HEART BULLETaBLACK LEFT POINTING INDEX"),
   (0x261B, "bRIGHT POINTING INDEXaWHITE LEFT POINTING INDEXbUP POINTING INDEX"),
   (0x261E, "bRIGHT POINTING INDEXbDOWN POINTING INDEXaSKULL AND CROSSBONESaCAUTION SIGN"),
   (0x2622, "aRADIOACTIVE SIGNaBIOHAZARD SIGNaCADUCEUSaANKHaORTHODOX CROSSaCHI RHO"),
   (0x2628, "aCROSS OF LORRAINEcJERUSALEMaSTAR AND CRESCENTaFARSI SYMBOLaADI SHAKTI"),
   (0x262D, "aHAMMER AND SICKLEaPEACE SYMBOLaYIN YANGaTRIGRAM FOR HEAVENcLAKEcFIREcTHUNDER"),
   (0x2634, "cWINDcWATERcMOUNTAINcEARTHaWHEEL OF DHARMAaWHITE FROWNING FACEbSMILING FACE"),
   (0x263B, "aBLACK SMILING FACEaWHITE SUN WITH RAYSaFIRST QUARTER MOONaLAST QUARTER MOON"),
   (0x263F, "aMERCURYaFEMALE SIGNaEARTHaMALE SIGNaJUPITERaSATURNaURANUSaNEPTUNEaPLUTOaARIES"),
   (0x2649, "aTAURUSaGEMINIaCANCERaLEOaVIRGOaLIBRAaSCORPIUSaSAGITTARIUSaCAPRICORNaAQUARIUS"),
   (0x2653, "aPISCESaWHITE CHESS KINGcQUEENcROOKcBISHOPcKNIGHTcPAWNaBLACK CHESS KINGcQUEEN"),
   (0x265C, "cROOKcBISHOPcKNIGHTcPAWNbSPADE SUITaWHITE HEART SUITbDIAMOND SUIT"),
   (0x2663, "aBLACK CLUB SUITaWHITE SPADE SUITaBLACK HEART SUITbDIAMOND SUITaWHITE CLUB SUIT"),
   (0x2668, "aHOT SPRINGSaQUARTER NOTEaEIGHTH NOTEaBEAMED EIGHTH NOTESbSIXTEENTH NOTES"),
   (0x266D, "aMUSIC FLAT SIGNbNATURAL SIGNbSHARP SIGNaWEST SYRIAC CROSSaEAST SYRIAC CROSS"),
   (0x2672, "aUNIVERSAL RECYCLING SYMBOLaRECYCLING SYMBOL FOR TYPE-1 PLASTICS"),
   (0x2674, "dTYPE-2 PLASTICSdTYPE-3 PLASTICSdTYPE-4 PLASTICSdTYPE-5 PLASTICS"),
   (0x2678, "dTYPE-6 PLASTICSdTYPE-7 PLASTICSdGENERIC MATERIALS"),
   (0x267B, "aBLACK UNIVERSAL RECYCLING SYMBOLaRECYCLED PAPER SYMBOL"),
   (0x267D, "aPARTIALLY-RECYCLED PAPER SYMBOLaPERMANENT PAPER SIGNaWHEELCHAIR SYMBOL"),
   (0x2680, "aDIE FACE-1bFACE-2bFACE-3bFACE-4bFACE-5bFACE-6aWHITE CIRCLE WITH DOT RIGHT"),
   (0x2687, "dTWO DOTSaBLACK CIRCLE WITH WHITE DOT RIGHTdTWO WHITE DOTSaMONOGRAM FOR YANG"),
   (0x268B, "cYINaDIGRAM FOR GREATER YANGcLESSER YINdYANGcGREATER YINaWHITE FLAGaBLACK FLAG"),
   (0x2692, "aHAMMER AND PICKaANCHORaCROSSED SWORDSaSTAFF OF AESCULAPIUSaSCALESaALEMBIC"),
   (0x2698, "aFLOWERaGEARaSTAFF OF HERMESaATOM SYMBOLaFLEUR-DE-LISaOUTLINED WHITE STAR"),
   (0x269E, "aTHREE LINES CONVERGING RIGHTdLEFTaWARNING SIGNaHIGH VOLTAGE SIGN"),
   (0x26A2, "aDOUBLED FEMALE SIGNbMALE SIGNaINTERLOCKED FEMALE AND MALE SIGN"),
   (0x26A5, "aMALE AND FEMALE SIGNbWITH STROKE SIGNdAND MALE AND FEMALE SIGN"),
   (0x26A8, "aVERTICAL MALE WITH STROKE SIGNaHORIZONTAL MALE WITH STROKE SIGN"),
   (0x26AA, "aMEDIUM WHITE CIRCLEbBLACK CIRCLEbSMALL WHITE CIRCLEaMARRIAGE SYMBOL"),
   (0x26AE, "aDIVORCE SYMBOLaUNMARRIED PARTNERSHIP SYMBOLaCOFFINaFUNERAL URNaNEUTERaCERES"),
   (0x26B4, "aPALLASaJUNOaVESTAaCHIRONaBLACK MOON LILITHaSEXTILEaSEMISEXTILEaQUINCUNX"),
   (0x26BC, "aSESQUIQUADRATEaSOCCER BALLaBASEBALLaSQUARED KEYaWHITE DRAUGHTS MANcKING"),
   (0x26C2, "aBLACK DRAUGHTS MANcKINGaSNOWMAN WITHOUT SNOWaSUN BEHIND CLOUDaRAIN"),
   (0x26C7, "aBLACK SNOWMANaTHUNDER CLOUD AND RAINaTURNED WHITE SHOGI PIECE"),
   (0x26CA, "bBLACK SHOGI PIECEaWHITE DIAMOND IN SQUAREaCROSSING LANESaDISABLED CAR"),
   (0x26CE, "aOPHIUCHUSaPICKaCAR SLIDINGaHELMET WITH WHITE CROSSaCIRCLED CROSSING LANES"),
   (0x26D3, "aCHAINSaNO ENTRYaALTERNATE ONE-WAY LEFT WAY TRAFFIC"),
   (0x26D6, "aBLACK TWO-WAY LEFT WAY TRAFFICaWHITE TWO-WAY LEFT WAY TRAFFIC"),
   (0x26D8, "aBLACK LEFT LANE MERGEaWHITE LEFT LANE MERGEaDRIVE SLOW SIGN"),
   (0x26DB, "aHEAVY WHITE DOWN-POINTING TRIANGLEaLEFT CLOSED ENTRYaSQUARED SALTIRE"),
   (0x26DE, "aFALLING DIAGONAL IN WHITE CIRCLE IN BLACK SQUAREaBLACK TRUCK"),
   (0x26E0, "aRESTRICTED LEFT ENTRY-1cENTRY-2aASTRONOMICAL SYMBOL FOR URANUS"),
   (0x26E3, "aHEAVY CIRCLE WITH STROKE AND TWO DOTS ABOVEaPENTAGRAM"),
   (0x26E5, "aRIGHT-HANDED INTERLACED PENTAGRAMaLEFT-HANDED INTERLACED PENTAGRAM"),
   (0x26E7, "aINVERTED PENTAGRAMaBLACK CROSS ON SHIELDaSHINTO SHRINEaCHURCHaCASTLE"),
   (0x26EC, "aHISTORIC SITEaGEAR WITHOUT HUBbWITH HANDLESaMAP SYMBOL FOR LIGHTHOUSEaMOUNTAIN"),
   (0x26F1, "aUMBRELLA ON GROUNDaFOUNTAINaFLAG IN HOLEaFERRYaSAILBOATaSQUARE FOUR CORNERS"),
   (0x26F7, "aSKIERaICE SKATEaPERSON WITH BALLaTENTaJAPANESE BANK SYMBOL"),
   (0x26FC, "aHEADSTONE GRAVEYARD SYMBOLaFUEL PUMPaCUP ON BLACK SQUARE"),
   (0x26FF, "aWHITE FLAG WITH HORIZONTAL MIDDLE BLACK STRIPEaBLACK SAFETY SCISSORS"),
   (0x2701, "aUPPER BLADE SCISSORSaBLACK SCISSORSaLOWER BLADE SCISSORSaWHITE SCISSORS"),
   (0x2705, "bHEAVY CHECK MARKaTELEPHONE LOCATION SIGNaTAPE DRIVEaAIRPLANEaENVELOPE"),
   (0x270A, "aRAISED FISTbHANDaVICTORY HANDaWRITING HANDaLOWER RIGHT PENCILaPENCIL"),
   (0x2710, "aUPPER RIGHT PENCILaWHITE NIBaBLACK NIBaCHECK MARKaHEAVY CHECK MARK"),
   (0x2715, "aMULTIPLICATION XaHEAVY MULTIPLICATION XaBALLOT XaHEAVY BALLOT X"),
   (0x2719, "aOUTLINED GREEK CROSSaHEAVY GREEK CROSSaOPEN CENTRE CROSS"),
   (0x271C, "aHEAVY OPEN CENTRE CROSSaLATIN CROSSaSHADOWED WHITE LATIN CROSS"),
   (0x271F, "aOUTLINED LATIN CROSSaMALTESE CROSSaSTAR OF DAVIDaFOUR TEARDROP-SPOKED ASTERISK"),
   (0x2723, "bBALLOON-SPOKED ASTERISKaHEAVY FOUR BALLOON-SPOKED ASTERISK"),
   (0x2725, "aFOUR CLUB-SPOKED ASTERISKaBLACK FOUR POINTED STARaWHITE FOUR POINTED STAR"),
   (0x2728, "aSPARKLESaSTRESS OUTLINED WHITE STARaCIRCLED WHITE STARaOPEN CENTRE BLACK STAR"),
   (0x272C, "aBLACK CENTRE WHITE STARaOUTLINED BLACK STARaHEAVY OUTLINED BLACK STAR"),
   (0x272F, "aPINWHEEL STARaSHADOWED WHITE STARaHEAVY ASTERISKaOPEN CENTRE ASTERISK"),
   (0x2733, "aEIGHT SPOKED ASTERISKbPOINTED BLACK STARcPINWHEEL STARaSIX POINTED BLACK STAR"),
   (0x2737, "aEIGHT POINTED RECTILINEAR BLACK STAR"),
   (0x2738, "aHEAVY EIGHT POINTED RECTILINEAR BLACK STARaTWELVE POINTED BLACK STAR"),
   (0x273A, "aSIXTEEN POINTED ASTERISKaTEARDROP-SPOKED ASTERISK"),
   (0x273C, "aOPEN CENTRE TEARDROP-SPOKED ASTERISKaHEAVY TEARDROP-SPOKED ASTERISK"),
   (0x273E, "aSIX PETALLED BLACK AND WHITE FLORETTEaBLACK FLORETTEaWHITE FLORETTE"),
   (0x2741, "aEIGHT PETALLED OUTLINED BLACK FLORETTEaCIRCLED OPEN CENTRE EIGHT POINTED STAR"),
   (0x2743, "aHEAVY TEARDROP-SPOKED PINWHEEL ASTERISKaSNOWFLAKEaTIGHT TRIFOLIATE SNOWFLAKE"),
   (0x2746, "aHEAVY CHEVRON SNOWFLAKEaSPARKLEaHEAVY SPARKLEaBALLOON-SPOKED ASTERISK"),
   (0x274A, "aEIGHT TEARDROP-SPOKED PROPELLER ASTERISK"),
   (0x274B, "aHEAVY EIGHT TEARDROP-SPOKED PROPELLER ASTERISKaCROSS MARK"),
   (0x274D, "aSHADOWED WHITE CIRCLEaNEGATIVE SQUARED CROSS MARK"),
   (0x274F, "aLOWER RIGHT DROP-SHADOWED WHITE SQUAREaUPPER RIGHT DROP-SHADOWED WHITE SQUARE"),
   (0x2751, "aLOWER RIGHT SHADOWED WHITE SQUAREaUPPER RIGHT SHADOWED WHITE SQUARE"),
   (0x2753, "aBLACK QUESTION MARK ORNAMENTaWHITE QUESTION MARK ORNAMENT"),
   (0x2755, "bEXCLAMATION MARK ORNAMENTaBLACK DIAMOND MINUS WHITE X"),
   (0x2757, "aHEAVY EXCLAMATION MARK SYMBOLaLIGHT VERTICAL BARaMEDIUM VERTICAL BAR"),
   (0x275A, "aHEAVY VERTICAL BARbSINGLE TURNED COMMA QUOTATION MARK ORNAMENT"),
   (0x275C, "cCOMMA QUOTATION MARK ORNAMENTbDOUBLE TURNED COMMA QUOTATION MARK ORNAMENT"),
   (0x275E, "cCOMMA QUOTATION MARK ORNAMENTbLOW SINGLE COMMA QUOTATION MARK ORNAMENT"),
   (0x2760, "cDOUBLE COMMA QUOTATION MARK ORNAMENTaCURVED STEM PARAGRAPH SIGN ORNAMENT"),
   (0x2762, "aHEAVY EXCLAMATION MARK ORNAMENTbHEART EXCLAMATION MARK ORNAMENTbBLACK HEART"),
   (0x2765, "aROTATED HEAVY BLACK HEART BULLETaFLORAL HEARTaROTATED FLORAL HEART BULLET"),
   (0x2768, "aMEDIUM LEFT PARENTHESIS ORNAMENTbRIGHT PARENTHESIS ORNAMENT"),
   (0x276A, "bFLATTENED LEFT PARENTHESIS ORNAMENTcRIGHT PARENTHESIS ORNAMENT"),
   (0x276C, "bLEFT-POINTING ANGLE BRACKET ORNAMENTbRIGHT-POINTING ANGLE BRACKET ORNAMENT"),
   (0x276E, "aHEAVY LEFT-POINTING ANGLE QUOTATION MARK ORNAMENT"),
   (0x276F, "bRIGHT-POINTING ANGLE QUOTATION MARK ORNAMENT"),
   (0x2770, "bLEFT-POINTING ANGLE BRACKET ORNAMENTbRIGHT-POINTING ANGLE BRACKET ORNAMENT"),
   (0x2772, "aLIGHT LEFT TORTOISE SHELL BRACKET ORNAMENT"),
   (0x2773, "bRIGHT TORTOISE SHELL BRACKET ORNAMENTaMEDIUM LEFT CURLY BRACKET ORNAMENT"),
   (0x2775, "bRIGHT CURLY BRACKET ORNAMENTaDINGBAT NEGATIVE CIRCLED DIGIT ONEeTWOeTHREEeFOUR"),
   (0x277A, "eFIVEeSIXeSEVENeEIGHTeNINEdNUMBER TENbCIRCLED SANS-SERIF DIGIT ONEeTWOeTHREE"),
   (0x2783, "eFOUReFIVEeSIXeSEVENeEIGHTeNINEdNUMBER TEN"),
   (0x278A, "bNEGATIVE CIRCLED SANS-SERIF DIGIT ONEfTWOfTHREEfFOURfFIVEfSIXfSEVENfEIGHTfNINE"),
   (0x2793, "eNUMBER TENaHEAVY WIDE-HEADED RIGHTWARDS ARROWbPLUS SIGNbMINUS SIGN"),
   (0x2797, "bDIVISION SIGNbSOUTH EAST ARROWbRIGHTWARDS ARROWbNORTH EAST ARROW"),
   (0x279B, "aDRAFTING POINT RIGHTWARDS ARROWaHEAVY ROUND-TIPPED RIGHTWARDS ARROW"),
   (0x279D, "aTRIANGLE-HEADED RIGHTWARDS ARROWaHEAVY TRIANGLE-HEADED RIGHTWARDS ARROW"),
   (0x279F, "aDASHED TRIANGLE-HEADED RIGHTWARDS ARROW"),
   (0x27A0, "aHEAVY DASHED TRIANGLE-HEADED RIGHTWARDS ARROWaBLACK RIGHTWARDS ARROW"),
   (0x27A2, "aTHREE-D TOP-LIGHTED RIGHTWARDS ARROWHEADbBOTTOM-LIGHTED RIGHTWARDS ARROWHEAD"),
   (0x27A4, "aBLACK RIGHTWARDS ARROWHEADaHEAVY BLACK CURVED DOWNWARDS AND RIGHTWARDS ARROW"),
   (0x27A6, "dUPWARDS AND RIGHTWARDS ARROWaSQUAT BLACK RIGHTWARDS ARROW"),
   (0x27A8, "aHEAVY CONCAVE-POINTED BLACK RIGHTWARDS ARROW"),
   (0x27A9, "aRIGHT-SHADED WHITE RIGHTWARDS ARROWaLEFT-SHADED WHITE RIGHTWARDS ARROW"),
   (0x27AB, "aBACK-TILTED SHADOWED WHITE RIGHTWARDS ARROW"),
   (0x27AC, "aFRONT-TILTED SHADOWED WHITE RIGHTWARDS ARROW"),
   (0x27AD, "aHEAVY LOWER RIGHT-SHADOWED WHITE RIGHTWARDS ARROW"),
   (0x27AE, "bUPPER RIGHT-SHADOWED WHITE RIGHTWARDS ARROW"),
   (0x27AF, "aNOTCHED LOWER RIGHT-SHADOWED WHITE RIGHTWARDS ARROWaCURLY LOOP"),
   (0x27B1, "aNOTCHED UPPER RIGHT-SHADOWED WHITE RIGHTWARDS ARROW"),
   (0x27B2, "aCIRCLED HEAVY WHITE RIGHTWARDS ARROWaWHITE-FEATHERED RIGHTWARDS ARROW"),
   (0x27B4, "aBLACK-FEATHERED SOUTH EAST ARROWbRIGHTWARDS ARROWbNORTH EAST ARROW"),
   (0x27B7, "aHEAVY BLACK-FEATHERED SOUTH EAST ARROWcRIGHTWARDS ARROWcNORTH EAST ARROW"),
   (0x27BA, "aTEARDROP-BARBED RIGHTWARDS ARROWaHEAVY TEARDROP-SHANKED RIGHTWARDS ARROW"),
   (0x27BC, "aWEDGE-TAILED RIGHTWARDS ARROWaHEAVY WEDGE-TAILED RIGHTWARDS ARROW"),
   (0x27BE, "aOPEN-OUTLINED RIGHTWARDS ARROWaDOUBLE CURLY LOOPaTHREE DIMENSIONAL ANGLE"),
   (0x27C1, "aWHITE TRIANGLE CONTAINING SMALL WHITE TRIANGLEaPERPENDICULARaOPEN SUBSET"),
   (0x27C4, "bSUPERSETaLEFT S-SHAPED BAG DELIMITERaRIGHT S-SHAPED BAG DELIMITER"),
   (0x27C7, "aOR WITH DOT INSIDEaREVERSE SOLIDUS PRECEDING SUBSETaSUPERSET PRECEDING SOLIDUS"),
   (0x27CA, "aVERTICAL BAR WITH HORIZONTAL STROKEaMATHEMATICAL RISING DIAGONALaLONG DIVISION"),
   (0x27CD, "aMATHEMATICAL FALLING DIAGONALaSQUARED LOGICAL ANDcOR"),
   (0x27D0, "aWHITE DIAMOND WITH CENTRED DOTaAND WITH DOTaELEMENT OF OPENING UPWARDS"),
   (0x27D3, "aLOWER RIGHT CORNER WITH DOTaUPPER LEFT CORNER WITH DOTaLEFT OUTER JOIN"),
   (0x27D6, "aRIGHT OUTER JOINaFULL OUTER JOINaLARGE UP TACKbDOWN TACK"),
   (0x27DA, "aLEFT AND RIGHT DOUBLE TURNSTILEdTACKbMULTIMAPaLONG RIGHT TACKbLEFT TACK"),
   (0x27DF, "aUP TACK WITH CIRCLE ABOVEaLOZENGE DIVIDED BY HORIZONTAL RULE"),
   (0x27E1, "aWHITE CONCAVE-SIDED DIAMONDdWITH LEFTWARDS TICKeRIGHTWARDS TICK"),
   (0x27E4, "bSQUARE WITH LEFTWARDS TICKdRIGHTWARDS TICK"),
   (0x27E6, "aMATHEMATICAL LEFT WHITE SQUARE BRACKETbRIGHT WHITE SQUARE BRACKET"),
   (0x27E8, "bLEFT ANGLE BRACKETbRIGHT ANGLE BRACKETbLEFT DOUBLE ANGLE BRACKET"),
   (0x27EB, "bRIGHT DOUBLE ANGLE BRACKETbLEFT WHITE TORTOISE SHELL BRACKET"),
   (0x27ED, "bRIGHT WHITE TORTOISE SHELL BRACKETbLEFT FLATTENED PARENTHESIS"),
   (0x27EF, "bRIGHT FLATTENED PARENTHESISaUPWARDS QUADRUPLE ARROWaDOWNWARDS QUADRUPLE ARROW"),
   (0x27F2, "aANTICLOCKWISE GAPPED CIRCLE ARROWaCLOCKWISE GAPPED CIRCLE ARROW"),
   (0x27F4, "aRIGHT ARROW WITH CIRCLED PLUSaLONG LEFTWARDS ARROWbRIGHTWARDS ARROW"),
   (0x27F7, "bLEFT RIGHT ARROWbLEFTWARDS DOUBLE ARROWbRIGHTWARDS DOUBLE ARROW"),
   (0x27FA, "bLEFT RIGHT DOUBLE ARROWbLEFTWARDS ARROW FROM BARbRIGHTWARDS ARROW FROM BAR"),
   (0x27FD, "bLEFTWARDS DOUBLE ARROW FROM BARbRIGHTWARDS DOUBLE ARROW FROM BAR"),
   (0x27FF, "cSQUIGGLE ARROWaBRAILLE PATTERN BLANKcDOTS-1cDOTS-2cDOTS-12cDOTS-3cDOTS-13"),
   (0x2806, "cDOTS-23cDOTS-123cDOTS-4cDOTS-14cDOTS-24cDOTS-124cDOTS-34cDOTS-134cDOTS-234"),
   (0x280F, "cDOTS-1234cDOTS-5cDOTS-15cDOTS-25cDOTS-125cDOTS-35cDOTS-135cDOTS-235cDOTS-1235"),
   (0x2818, "cDOTS-45cDOTS-145cDOTS-245cDOTS-1245cDOTS-345cDOTS-1345cDOTS-2345cDOTS-12345"),
   (0x2820, "cDOTS-6cDOTS-16cDOTS-26cDOTS-126cDOTS-36cDOTS-136cDOTS-236cDOTS-1236cDOTS-46"),
   (0x2829, "cDOTS-146cDOTS-246cDOTS-1246cDOTS-346cDOTS-1346cDOTS-2346cDOTS-12346cDOTS-56"),
   (0x2831, "cDOTS-156cDOTS-256cDOTS-1256cDOTS-356cDOTS-1356cDOTS-2356cDOTS-12356cDOTS-456"),
   (0x2839, "cDOTS-1456cDOTS-2456cDOTS-12456cDOTS-3456cDOTS-13456cDOTS-23456cDOTS-123456"),
   (0x2840, "cDOTS-7cDOTS-17cDOTS-27cDOTS-127cDOTS-37cDOTS-137cDOTS-237cDOTS-1237cDOTS-47"),
   (0x2849, "cDOTS-147cDOTS-247cDOTS-1247cDOTS-347cDOTS-1347cDOTS-2347cDOTS-12347cDOTS-57"),
   (0x2851, "cDOTS-157cDOTS-257cDOTS-1257cDOTS-357cDOTS-1357cDOTS-2357cDOTS-12357cDOTS-457"),
   (0x2859, "cDOTS-1457cDOTS-2457cDOTS-12457cDOTS-3457cDOTS-13457cDOTS-23457cDOTS-123457"),
   (0x2860, "cDOTS-67cDOTS-167cDOTS-267cDOTS-1267cDOTS-367cDOTS-1367cDOTS-2367cDOTS-12367"),
   (0x2868, "cDOTS-467cDOTS-1467cDOTS-2467cDOTS-12467cDOTS-3467cDOTS-13467cDOTS-23467"),
   (0x286F, "cDOTS-123467cDOTS-567cDOTS-1567cDOTS-2567cDOTS-12567cDOTS-3567cDOTS-13567"),
   (0x2876, "cDOTS-23567cDOTS-123567cDOTS-4567cDOTS-14567cDOTS-24567cDOTS-124567cDOTS-34567"),
   (0x287D, "cDOTS-134567cDOTS-234567cDOTS-1234567cDOTS-8cDOTS-18cDOTS-28cDOTS-128cDOTS-38"),
   (0x2885, "cDOTS-138cDOTS-238cDOTS-1238cDOTS-48cDOTS-148cDOTS-248cDOTS-1248cDOTS-348"),
   (0x288D, "cDOTS-1348cDOTS-2348cDOTS-12348cDOTS-58cDOTS-158cDOTS-258cDOTS-1258cDOTS-358"),
   (0x2895, "cDOTS-1358cDOTS-2358cDOTS-12358cDOTS-458cDOTS-1458cDOTS-2458cDOTS-12458"),
   (0x289C, "cDOTS-3458cDOTS-13458cDOTS-23458cDOTS-123458cDOTS-68cDOTS-168cDOTS-268"),
   (0x28A3, "cDOTS-1268cDOTS-368cDOTS-1368cDOTS-2368cDOTS-12368cDOTS-468cDOTS-1468cDOTS-2468"),
   (0x28AB, "cDOTS-12468cDOTS-3468cDOTS-13468cDOTS-23468cDOTS-123468cDOTS-568cDOTS-1568"),
   (0x28B2, "cDOTS-2568cDOTS-12568cDOTS-3568cDOTS-13568cDOTS-23568cDOTS-123568cDOTS-4568"),
   (0x28B9, "cDOTS-14568cDOTS-24568cDOTS-124568cDOTS-34568cDOTS-134568cDOTS-234568"),
   (0x28BF, "cDOTS-1234568cDOTS-78cDOTS-178cDOTS-278cDOTS-1278cDOTS-378cDOTS-1378cDOTS-2378"),
   (0x28C7, "cDOTS-12378cDOTS-478cDOTS-1478cDOTS-2478cDOTS-12478cDOTS-3478cDOTS-13478"),
   (0x28CE, "cDOTS-23478cDOTS-123478cDOTS-578cDOTS-1578cDOTS-2578cDOTS-12578cDOTS-3578"),
   (0x28D5, "cDOTS-13578cDOTS-23578cDOTS-123578cDOTS-4578cDOTS-14578cDOTS-24578cDOTS-124578"),
   (0x28DC, "cDOTS-34578cDOTS-134578cDOTS-234578cDOTS-1234578cDOTS-678cDOTS-1678cDOTS-2678"),
   (0x28E3, "cDOTS-12678cDOTS-3678cDOTS-13678cDOTS-23678cDOTS-123678cDOTS-4678cDOTS-14678"),
   (0x28EA, "cDOTS-24678cDOTS-124678cDOTS-34678cDOTS-134678cDOTS-234678cDOTS-1234678"),
   (0x28F0, "cDOTS-5678cDOTS-15678cDOTS-25678cDOTS-125678cDOTS-35678cDOTS-135678cDOTS-235678"),
   (0x28F7, "cDOTS-1235678cDOTS-45678cDOTS-145678cDOTS-245678cDOTS-1245678cDOTS-345678"),
   (0x28FD, "cDOTS-1345678cDOTS-2345678cDOTS-12345678"),
   (0x2900, "aRIGHTWARDS TWO-HEADED ARROW WITH VERTICAL STROKEeDOUBLE VERTICAL STROKE"),
   (0x2902, "aLEFTWARDS DOUBLE ARROW WITH VERTICAL STROKE"),
   (0x2903, "aRIGHTWARDS DOUBLE ARROW WITH VERTICAL STROKE"),
   (0x2904, "aLEFT RIGHT DOUBLE ARROW WITH VERTICAL STROKE"),
   (0x2905, "aRIGHTWARDS TWO-HEADED ARROW FROM BARaLEFTWARDS DOUBLE ARROW FROM BAR"),
   (0x2907, "aRIGHTWARDS DOUBLE ARROW FROM BARaDOWNWARDS ARROW WITH HORIZONTAL STROKE"),
   (0x2909, "aUPWARDS ARROW WITH HORIZONTAL STROKEbTRIPLE ARROWaDOWNWARDS TRIPLE ARROW"),
   (0x290C, "aLEFTWARDS DOUBLE DASH ARROWaRIGHTWARDS DOUBLE DASH ARROW"),
   (0x290E, "aLEFTWARDS TRIPLE DASH ARROWaRIGHTWARDS TRIPLE DASH ARROW"),
   (0x2910, "bTWO-HEADED TRIPLE DASH ARROWbARROW WITH DOTTED STEMaUPWARDS ARROW TO BAR"),
   (0x2913, "aDOWNWARDS ARROW TO BARaRIGHTWARDS ARROW WITH TAIL WITH VERTICAL STROKE"),
   (0x2915, "fDOUBLE VERTICAL STROKEbTWO-HEADED ARROW WITH TAILfWITH VERTICAL STROKE"),
   (0x2918, "gDOUBLE VERTICAL STROKEaLEFTWARDS ARROW-TAILaRIGHTWARDS ARROW-TAIL"),
   (0x291B, "aLEFTWARDS DOUBLE ARROW-TAILaRIGHTWARDS DOUBLE ARROW-TAIL"),
   (0x291D, "aLEFTWARDS ARROW TO BLACK DIAMONDaRIGHTWARDS ARROW TO BLACK DIAMOND"),
   (0x291F, "aLEFTWARDS ARROW FROM BAR TO BLACK DIAMOND"),
   (0x2920, "aRIGHTWARDS ARROW FROM BAR TO BLACK DIAMONDaNORTH WEST AND SOUTH EAST ARROW"),
   (0x2922, "bEAST AND SOUTH WEST ARROWbWEST ARROW WITH HOOKbEAST ARROW WITH HOOK"),
   (0x2925, "aSOUTH EAST ARROW WITH HOOKbWEST ARROW WITH HOOK"),
   (0x2927, "aNORTH WEST ARROW AND NORTH EAST ARROWbEAST ARROW AND SOUTH EAST ARROW"),
   (0x2929, "aSOUTH EAST ARROW AND SOUTH WEST ARROWbWEST ARROW AND NORTH WEST ARROW"),
   (0x292B, "aRISING DIAGONAL CROSSING FALLING DIAGONAL"),
   (0x292C, "aFALLING DIAGONAL CROSSING RISING DIAGONAL"),
   (0x292D, "aSOUTH EAST ARROW CROSSING NORTH EAST ARROW"),
   (0x292E, "aNORTH EAST ARROW CROSSING SOUTH EAST ARROW"),
   (0x292F, "aFALLING DIAGONAL CROSSING NORTH EAST ARROW"),
   (0x2930, "aRISING DIAGONAL CROSSING SOUTH EAST ARROW"),
   (0x2931, "aNORTH EAST ARROW CROSSING NORTH WEST ARROW"),
   (0x2932, "bWEST ARROW CROSSING NORTH EAST ARROWaWAVE ARROW POINTING DIRECTLY RIGHT"),
   (0x2934, "aARROW POINTING RIGHTWARDS THEN CURVING UPWARDSfDOWNWARDS"),
   (0x2936, "cDOWNWARDS THEN CURVING LEFTWARDSfRIGHTWARDSaRIGHT-SIDE ARC CLOCKWISE ARROW"),
   (0x2939, "aLEFT-SIDE ARC ANTICLOCKWISE ARROWaTOP ARC ANTICLOCKWISE ARROW"),
   (0x293B, "aBOTTOM ARC ANTICLOCKWISE ARROWaTOP ARC CLOCKWISE ARROW WITH MINUS"),
   (0x293D, "cANTICLOCKWISE ARROW WITH PLUSaLOWER RIGHT SEMICIRCULAR CLOCKWISE ARROW"),
   (0x293F, "bLEFT SEMICIRCULAR ANTICLOCKWISE ARROWaANTICLOCKWISE CLOSED CIRCLE ARROW"),
   (0x2941, "aCLOCKWISE CLOSED CIRCLE ARROWaRIGHTWARDS ARROW ABOVE SHORT LEFTWARDS ARROW"),
   (0x2943, "aLEFTWARDS ARROW ABOVE SHORT RIGHTWARDS ARROW"),
   (0x2944, "aSHORT RIGHTWARDS ARROW ABOVE LEFTWARDS ARROWaRIGHTWARDS ARROW WITH PLUS BELOW"),
   (0x2946, "aLEFTWARDS ARROW WITH PLUS BELOWaRIGHTWARDS ARROW THROUGH X"),
   (0x2948, "aLEFT RIGHT ARROW THROUGH SMALL CIRCLE"),
   (0x2949, "aUPWARDS TWO-HEADED ARROW FROM SMALL CIRCLE"),
   (0x294A, "aLEFT BARB UP RIGHT BARB DOWN HARPOONcDOWN RIGHT BARB UP HARPOON"),
   (0x294C, "aUP BARB RIGHT DOWN BARB LEFT HARPOONcLEFT DOWN BARB RIGHT HARPOON"),
   (0x294E, "aLEFT BARB UP RIGHT BARB UP HARPOONaUP BARB RIGHT DOWN BARB RIGHT HARPOON"),
   (0x2950, "aLEFT BARB DOWN RIGHT BARB DOWN HARPOONaUP BARB LEFT DOWN BARB LEFT HARPOON"),
   (0x2952, "aLEFTWARDS HARPOON WITH BARB UP TO BARaRIGHTWARDS HARPOON WITH BARB UP TO BAR"),
   (0x2954, "aUPWARDS HARPOON WITH BARB RIGHT TO BAR"),
   (0x2955, "aDOWNWARDS HARPOON WITH BARB RIGHT TO BAR"),
   (0x2956, "aLEFTWARDS HARPOON WITH BARB DOWN TO BAR"),
   (0x2957, "aRIGHTWARDS HARPOON WITH BARB DOWN TO BARaUPWARDS HARPOON WITH BARB LEFT TO BAR"),
   (0x2959, "aDOWNWARDS HARPOON WITH BARB LEFT TO BAR"),
   (0x295A, "aLEFTWARDS HARPOON WITH BARB UP FROM BAR"),
   (0x295B, "aRIGHTWARDS HARPOON WITH BARB UP FROM BAR"),
   (0x295C, "aUPWARDS HARPOON WITH BARB RIGHT FROM BAR"),
   (0x295D, "aDOWNWARDS HARPOON WITH BARB RIGHT FROM BAR"),
   (0x295E, "aLEFTWARDS HARPOON WITH BARB DOWN FROM BAR"),
   (0x295F, "aRIGHTWARDS HARPOON WITH BARB DOWN FROM BAR"),
   (0x2960, "aUPWARDS HARPOON WITH BARB LEFT FROM BAR"),
   (0x2961, "aDOWNWARDS HARPOON WITH BARB LEFT FROM BAR"),
   (0x2962, "aLEFTWARDS HARPOON WITH BARB UP ABOVE LEFTWARDS HARPOON WITH BARB DOWN"),
   (0x2963, "aUPWARDS HARPOON WITH BARB LEFT BESIDE UPWARDS HARPOON WITH BARB RIGHT"),
   (0x2964, "aRIGHTWARDS HARPOON WITH BARB UP ABOVE RIGHTWARDS HARPOON WITH BARB DOWN"),
   (0x2965, "aDOWNWARDS HARPOON WITH BARB LEFT BESIDE DOWNWARDS HARPOON WITH BARB RIGHT"),
   (0x2966, "aLEFTWARDS HARPOON WITH BARB UP ABOVE RIGHTWARDS HARPOON WITH BARB UP"),
   (0x2967, "eDOWN ABOVE RIGHTWARDS HARPOON WITH BARB DOWN"),
   (0x2968, "aRIGHTWARDS HARPOON WITH BARB UP ABOVE LEFTWARDS HARPOON WITH BARB UP"),
   (0x2969, "eDOWN ABOVE LEFTWARDS HARPOON WITH BARB DOWN"),
   (0x296A, "aLEFTWARDS HARPOON WITH BARB UP ABOVE LONG DASHeDOWN BELOW LONG DASH"),
   (0x296C, "aRIGHTWARDS HARPOON WITH BARB UP ABOVE LONG DASHeDOWN BELOW LONG DASH"),
   (0x296E, "aUPWARDS HARPOON WITH BARB LEFT BESIDE DOWNWARDS HARPOON WITH BARB RIGHT"),
   (0x296F, "aDOWNWARDS HARPOON WITH BARB LEFT BESIDE UPWARDS HARPOON WITH BARB RIGHT"),
   (0x2970, "aRIGHT DOUBLE ARROW WITH ROUNDED HEADaEQUALS SIGN ABOVE RIGHTWARDS ARROW"),
   (0x2972, "aTILDE OPERATOR ABOVE RIGHTWARDS ARROWaLEFTWARDS ARROW ABOVE TILDE OPERATOR"),
   (0x2974, "aRIGHTWARDS ARROW ABOVE TILDE OPERATORdALMOST EQUAL TO"),
   (0x2976, "aLESS-THAN ABOVE LEFTWARDS ARROWaLEFTWARDS ARROW THROUGH LESS-THAN"),
   (0x2978, "aGREATER-THAN ABOVE RIGHTWARDS ARROWaSUBSET ABOVE RIGHTWARDS ARROW"),
   (0x297A, "aLEFTWARDS ARROW THROUGH SUBSETaSUPERSET ABOVE LEFTWARDS ARROWaLEFT FISH TAIL"),
   (0x297D, "aRIGHT FISH TAILaUP FISH TAILaDOWN FISH TAILaTRIPLE VERTICAL BAR DELIMITER"),
   (0x2981, "aZ NOTATION SPOTcTYPE COLONaLEFT WHITE CURLY BRACKETaRIGHT WHITE CURLY BRACKET"),
   (0x2985, "aLEFT WHITE PARENTHESISaRIGHT WHITE PARENTHESISaZ NOTATION LEFT IMAGE BRACKET"),
   (0x2988, "cRIGHT IMAGE BRACKETcLEFT BINDING BRACKETcRIGHT BINDING BRACKET"),
   (0x298B, "aLEFT SQUARE BRACKET WITH UNDERBARaRIGHT SQUARE BRACKET WITH UNDERBAR"),
   (0x298D, "aLEFT SQUARE BRACKET WITH TICK IN TOP CORNER"),
   (0x298E, "aRIGHT SQUARE BRACKET WITH TICK IN BOTTOM CORNER"),
   (0x298F, "aLEFT SQUARE BRACKET WITH TICK IN BOTTOM CORNER"),
   (0x2990, "aRIGHT SQUARE BRACKET WITH TICK IN TOP CORNERaLEFT ANGLE BRACKET WITH DOT"),
   (0x2992, "aRIGHT ANGLE BRACKET WITH DOTaLEFT ARC LESS-THAN BRACKET"),
   (0x2994, "aRIGHT ARC GREATER-THAN BRACKETaDOUBLE LEFT ARC GREATER-THAN BRACKET"),
   (0x2996, "bRIGHT ARC LESS-THAN BRACKETaLEFT BLACK TORTOISE SHELL BRACKET"),
   (0x2998, "aRIGHT BLACK TORTOISE SHELL BRACKETaDOTTED FENCEaVERTICAL ZIGZAG LINE"),
   (0x299B, "aMEASURED ANGLE OPENING LEFTaRIGHT ANGLE VARIANT WITH SQUARE"),
   (0x299D, "aMEASURED RIGHT ANGLE WITH DOTaANGLE WITH S INSIDEaACUTE ANGLE"),
   (0x29A0, "aSPHERICAL ANGLE OPENING LEFTdUPaTURNED ANGLEaREVERSED ANGLE"),
   (0x29A4, "aANGLE WITH UNDERBARaREVERSED ANGLE WITH UNDERBARaOBLIQUE ANGLE OPENING UPdDOWN"),
   (0x29A8, "aMEASURED ANGLE WITH OPEN ARM ENDING IN ARROW POINTING UP AND RIGHTlLEFT"),
   (0x29AA, "jDOWN AND RIGHTlLEFTjRIGHT AND UPjLEFT AND UPjRIGHT AND DOWNjLEFT AND DOWN"),
   (0x29B0, "aREVERSED EMPTY SETaEMPTY SET WITH OVERBARdSMALL CIRCLE ABOVEdRIGHT ARROW ABOVE"),
   (0x29B4, "dLEFT ARROW ABOVEaCIRCLE WITH HORIZONTAL BARaCIRCLED VERTICAL BARbPARALLEL"),
   (0x29B8, "bREVERSE SOLIDUSbPERPENDICULAR"),
   (0x29BA, "aCIRCLE DIVIDED BY HORIZONTAL BAR AND TOP HALF DIVIDED BY VERTICAL BAR"),
   (0x29BB, "bWITH SUPERIMPOSED XaCIRCLED ANTICLOCKWISE-ROTATED DIVISION SIGN"),
   (0x29BD, "aUP ARROW THROUGH CIRCLEaCIRCLED WHITE BULLETbBULLETbLESS-THANbGREATER-THAN"),
   (0x29C2, "aCIRCLE WITH SMALL CIRCLE TO THE RIGHTcTWO HORIZONTAL STROKES TO THE RIGHT"),
   (0x29C4, "aSQUARED RISING DIAGONAL SLASHbFALLING DIAGONAL SLASHbASTERISKbSMALL CIRCLE"),
   (0x29C8, "bSQUAREaTWO JOINED SQUARESaTRIANGLE WITH DOT ABOVEcUNDERBARaS IN TRIANGLE"),
   (0x29CD, "aTRIANGLE WITH SERIFS AT BOTTOMaRIGHT TRIANGLE ABOVE LEFT TRIANGLE"),
   (0x29CF, "aLEFT TRIANGLE BESIDE VERTICAL BARaVERTICAL BAR BESIDE RIGHT TRIANGLE"),
   (0x29D1, "aBOWTIE WITH LEFT HALF BLACKcRIGHT HALF BLACKaBLACK BOWTIE"),
   (0x29D4, "aTIMES WITH LEFT HALF BLACKcRIGHT HALF BLACKaWHITE HOURGLASSaBLACK HOURGLASS"),
   (0x29D8, "aLEFT WIGGLY FENCEaRIGHT WIGGLY FENCEaLEFT DOUBLE WIGGLY FENCE"),
   (0x29DB, "aRIGHT DOUBLE WIGGLY FENCEaINCOMPLETE INFINITYaTIE OVER INFINITY"),
   (0x29DE, "aINFINITY NEGATED WITH VERTICAL BARaDOUBLE-ENDED MULTIMAP"),
   (0x29E0, "aSQUARE WITH CONTOURED OUTLINEaINCREASES ASaSHUFFLE PRODUCT"),
   (0x29E3, "aEQUALS SIGN AND SLANTED PARALLELfWITH TILDE ABOVE"),
   (0x29E5, "aIDENTICAL TO AND SLANTED PARALLELaGLEICH STARKaTHERMODYNAMIC"),
   (0x29E8, "aDOWN-POINTING TRIANGLE WITH LEFT HALF BLACKdRIGHT HALF BLACK"),
   (0x29EA, "aBLACK DIAMOND WITH DOWN ARROWbLOZENGEaWHITE CIRCLE WITH DOWN ARROW"),
   (0x29ED, "aBLACK CIRCLE WITH DOWN ARROWaERROR-BARRED WHITE SQUAREbBLACK SQUARE"),
   (0x29F0, "bWHITE DIAMONDbBLACK DIAMONDbWHITE CIRCLEbBLACK CIRCLEaRULE-DELAYED"),
   (0x29F5, "aREVERSE SOLIDUS OPERATORaSOLIDUS WITH OVERBAR"),
   (0x29F7, "aREVERSE SOLIDUS WITH HORIZONTAL STROKEaBIG SOLIDUSbREVERSE SOLIDUSaDOUBLE PLUS"),
   (0x29FB, "aTRIPLE PLUSaLEFT-POINTING CURVED ANGLE BRACKET"),
   (0x29FD, "aRIGHT-POINTING CURVED ANGLE BRACKETaTINYaMINYaN-ARY CIRCLED DOT OPERATOR"),
   (0x2A01, "cPLUS OPERATORcTIMES OPERATORbUNION OPERATOR WITH DOTePLUS"),
   (0x2A05, "bSQUARE INTERSECTION OPERATORcUNION OPERATORaTWO LOGICAL AND OPERATOR"),
   (0x2A08, "cOR OPERATORaN-ARY TIMES OPERATORaMODULO TWO SUMaSUMMATION WITH INTEGRAL"),
   (0x2A0C, "aQUADRUPLE INTEGRAL OPERATORaFINITE PART INTEGRALaINTEGRAL WITH DOUBLE STROKE"),
   (0x2A0F, "bAVERAGE WITH SLASHaCIRCULATION FUNCTIONaANTICLOCKWISE INTEGRATION"),
   (0x2A12, "aLINE INTEGRATION WITH RECTANGULAR PATH AROUND POLE"),
   (0x2A13, "dSEMICIRCULAR PATH AROUND POLEcNOT INCLUDING THE POLE"),
   (0x2A15, "aINTEGRAL AROUND A POINT OPERATORaQUATERNION INTEGRAL OPERATOR"),
   (0x2A17, "aINTEGRAL WITH LEFTWARDS ARROW WITH HOOKcTIMES SIGNcINTERSECTIONcUNIONcOVERBAR"),
   (0x2A1C, "cUNDERBARaJOINaLARGE LEFT TRIANGLE OPERATORaZ NOTATION SCHEMA COMPOSITION"),
   (0x2A20, "dPIPINGdPROJECTIONaPLUS SIGN WITH SMALL CIRCLE ABOVEdCIRCUMFLEX ACCENT ABOVE"),
   (0x2A24, "dTILDE ABOVEdDOT BELOWdTILDE BELOWdSUBSCRIPT TWOdBLACK TRIANGLE"),
   (0x2A29, "aMINUS SIGN WITH COMMA ABOVEdDOT BELOWdFALLING DOTSdRISING DOTS"),
   (0x2A2D, "aPLUS SIGN IN LEFT HALF CIRCLEdRIGHT HALF CIRCLEaVECTOR OR CROSS PRODUCT"),
   (0x2A30, "aMULTIPLICATION SIGN WITH DOT ABOVEdUNDERBAR"),
   (0x2A32, "aSEMIDIRECT PRODUCT WITH BOTTOM CLOSEDaSMASH PRODUCT"),
   (0x2A34, "aMULTIPLICATION SIGN IN LEFT HALF CIRCLEdRIGHT HALF CIRCLE"),
   (0x2A36, "aCIRCLED MULTIPLICATION SIGN WITH CIRCUMFLEX ACCENT"),
   (0x2A37, "aMULTIPLICATION SIGN IN DOUBLE CIRCLEaCIRCLED DIVISION SIGN"),
   (0x2A39, "aPLUS SIGN IN TRIANGLEaMINUS SIGN IN TRIANGLEaMULTIPLICATION SIGN IN TRIANGLE"),
   (0x2A3C, "aINTERIOR PRODUCTaRIGHTHAND INTERIOR PRODUCTaZ NOTATION RELATIONAL COMPOSITION"),
   (0x2A3F, "aAMALGAMATION OR COPRODUCTaINTERSECTION WITH DOTaUNION WITH MINUS SIGNcOVERBAR"),
   (0x2A43, "aINTERSECTION WITH OVERBARcLOGICAL ANDaUNION WITH LOGICAL ORbABOVE INTERSECTION"),
   (0x2A47, "aINTERSECTION ABOVE UNIONaUNION ABOVE BAR ABOVE INTERSECTION"),
   (0x2A49, "aINTERSECTION ABOVE BAR ABOVE UNIONaUNION BESIDE AND JOINED WITH UNION"),
   (0x2A4B, "aINTERSECTION BESIDE AND JOINED WITH INTERSECTIONaCLOSED UNION WITH SERIFS"),
   (0x2A4D, "bINTERSECTION WITH SERIFSaDOUBLE SQUARE INTERSECTIONcUNION"),
   (0x2A50, "aCLOSED UNION WITH SERIFS AND SMASH PRODUCTaLOGICAL AND WITH DOT ABOVE"),
   (0x2A52, "bOR WITH DOT ABOVEaDOUBLE LOGICAL ANDcORaTWO INTERSECTING LOGICAL ANDdOR"),
   (0x2A57, "aSLOPING LARGE ORcANDaLOGICAL OR OVERLAPPING LOGICAL ANDbAND WITH MIDDLE STEM"),
   (0x2A5B, "bOR WITH MIDDLE STEMbAND WITH HORIZONTAL DASHbOR WITH HORIZONTAL DASH"),
   (0x2A5E, "bAND WITH DOUBLE OVERBARdUNDERBARdDOUBLE UNDERBARaSMALL VEE WITH UNDERBAR"),
   (0x2A62, "aLOGICAL OR WITH DOUBLE OVERBAReUNDERBARaZ NOTATION DOMAIN ANTIRESTRICTION"),
   (0x2A65, "cRANGE ANTIRESTRICTIONaEQUALS SIGN WITH DOT BELOWaIDENTICAL WITH DOT ABOVE"),
   (0x2A68, "aTRIPLE HORIZONTAL BAR WITH DOUBLE VERTICAL STROKEeTRIPLE VERTICAL STROKE"),
   (0x2A6A, "aTILDE OPERATOR WITH DOT ABOVEdRISING DOTSaSIMILAR MINUS SIMILAR"),
   (0x2A6D, "aCONGRUENT WITH DOT ABOVEaEQUALS WITH ASTERISK"),
   (0x2A6F, "aALMOST EQUAL TO WITH CIRCUMFLEX ACCENTaAPPROXIMATELY EQUAL OR EQUAL TO"),
   (0x2A71, "aEQUALS SIGN ABOVE PLUS SIGNaPLUS SIGN ABOVE EQUALS SIGN"),
   (0x2A73, "aEQUALS SIGN ABOVE TILDE OPERATORaDOUBLE COLON EQUAL"),
   (0x2A75, "aTWO CONSECUTIVE EQUALS SIGNSaTHREE CONSECUTIVE EQUALS SIGNS"),
   (0x2A77, "aEQUALS SIGN WITH TWO DOTS ABOVE AND TWO DOTS BELOW"),
   (0x2A78, "aEQUIVALENT WITH FOUR DOTS ABOVEaLESS-THAN WITH CIRCLE INSIDE"),
   (0x2A7A, "aGREATER-THAN WITH CIRCLE INSIDEaLESS-THAN WITH QUESTION MARK ABOVE"),
   (0x2A7C, "aGREATER-THAN WITH QUESTION MARK ABOVEaLESS-THAN OR SLANTED EQUAL TO"),
   (0x2A7E, "aGREATER-THAN OR SLANTED EQUAL TOaLESS-THAN OR SLANTED EQUAL TO WITH DOT INSIDE"),
   (0x2A80, "aGREATER-THAN OR SLANTED EQUAL TO WITH DOT INSIDE"),
   (0x2A81, "aLESS-THAN OR SLANTED EQUAL TO WITH DOT ABOVE"),
   (0x2A82, "aGREATER-THAN OR SLANTED EQUAL TO WITH DOT ABOVE"),
   (0x2A83, "aLESS-THAN OR SLANTED EQUAL TO WITH DOT ABOVE RIGHT"),
   (0x2A84, "aGREATER-THAN OR SLANTED EQUAL TO WITH DOT ABOVE LEFTaLESS-THAN OR APPROXIMATE"),
   (0x2A86, "aGREATER-THAN OR APPROXIMATEaLESS-THAN AND SINGLE-LINE NOT EQUAL TO"),
   (0x2A88, "aGREATER-THAN AND SINGLE-LINE NOT EQUAL TOaLESS-THAN AND NOT APPROXIMATE"),
   (0x2A8A, "aGREATER-THAN AND NOT APPROXIMATE"),
   (0x2A8B, "aLESS-THAN ABOVE DOUBLE-LINE EQUAL ABOVE GREATER-THAN"),
   (0x2A8C, "aGREATER-THAN ABOVE DOUBLE-LINE EQUAL ABOVE LESS-THAN"),
   (0x2A8D, "aLESS-THAN ABOVE SIMILAR OR EQUALaGREATER-THAN ABOVE SIMILAR OR EQUAL"),
   (0x2A8F, "aLESS-THAN ABOVE SIMILAR ABOVE GREATER-THAN"),
   (0x2A90, "aGREATER-THAN ABOVE SIMILAR ABOVE LESS-THAN"),
   (0x2A91, "aLESS-THAN ABOVE GREATER-THAN ABOVE DOUBLE-LINE EQUAL"),
   (0x2A92, "aGREATER-THAN ABOVE LESS-THAN ABOVE DOUBLE-LINE EQUAL"),
   (0x2A93, "aLESS-THAN ABOVE SLANTED EQUAL ABOVE GREATER-THAN ABOVE SLANTED EQUAL"),
   (0x2A94, "aGREATER-THAN ABOVE SLANTED EQUAL ABOVE LESS-THAN ABOVE SLANTED EQUAL"),
   (0x2A95, "aSLANTED EQUAL TO OR LESS-THANeGREATER-THANeLESS-THAN WITH DOT INSIDE"),
   (0x2A98, "eGREATER-THAN WITH DOT INSIDEaDOUBLE-LINE EQUAL TO OR LESS-THANeGREATER-THAN"),
   (0x2A9B, "bSLANTED EQUAL TO OR LESS-THANfGREATER-THANaSIMILAR OR LESS-THANcGREATER-THAN"),
   (0x2A9F, "bABOVE LESS-THAN ABOVE EQUALS SIGNcGREATER-THAN ABOVE EQUALS SIGN"),
   (0x2AA1, "aDOUBLE NESTED LESS-THANcGREATER-THANcLESS-THAN WITH UNDERBAR"),
   (0x2AA4, "aGREATER-THAN OVERLAPPING LESS-THANbBESIDE LESS-THANaLESS-THAN CLOSED BY CURVE"),
   (0x2AA7, "aGREATER-THAN CLOSED BY CURVEaLESS-THAN CLOSED BY CURVE ABOVE SLANTED EQUAL"),
   (0x2AA9, "aGREATER-THAN CLOSED BY CURVE ABOVE SLANTED EQUALaSMALLER THANaLARGER THAN"),
   (0x2AAC, "aSMALLER THAN OR EQUAL TOaLARGER THAN OR EQUAL TOaEQUALS SIGN WITH BUMPY ABOVE"),
   (0x2AAF, "aPRECEDES ABOVE SINGLE-LINE EQUALS SIGNaSUCCEEDS ABOVE SINGLE-LINE EQUALS SIGN"),
   (0x2AB1, "aPRECEDES ABOVE SINGLE-LINE NOT EQUAL TO"),
   (0x2AB2, "aSUCCEEDS ABOVE SINGLE-LINE NOT EQUAL TOaPRECEDES ABOVE EQUALS SIGN"),
   (0x2AB4, "aSUCCEEDS ABOVE EQUALS SIGNaPRECEDES ABOVE NOT EQUAL TO"),
   (0x2AB6, "aSUCCEEDS ABOVE NOT EQUAL TOaPRECEDES ABOVE ALMOST EQUAL TO"),
   (0x2AB8, "aSUCCEEDS ABOVE ALMOST EQUAL TOaPRECEDES ABOVE NOT ALMOST EQUAL TO"),
   (0x2ABA, "aSUCCEEDS ABOVE NOT ALMOST EQUAL TOaDOUBLE PRECEDESbSUCCEEDSaSUBSET WITH DOT"),
   (0x2ABE, "aSUPERSET WITH DOTaSUBSET WITH PLUS SIGN BELOWaSUPERSET WITH PLUS SIGN BELOW"),
   (0x2AC1, "aSUBSET WITH MULTIPLICATION SIGN BELOWaSUPERSET WITH MULTIPLICATION SIGN BELOW"),
   (0x2AC3, "aSUBSET OF OR EQUAL TO WITH DOT ABOVEaSUPERSET OF OR EQUAL TO WITH DOT ABOVE"),
   (0x2AC5, "aSUBSET OF ABOVE EQUALS SIGNaSUPERSET OF ABOVE EQUALS SIGN"),
   (0x2AC7, "aSUBSET OF ABOVE TILDE OPERATORaSUPERSET OF ABOVE TILDE OPERATOR"),
   (0x2AC9, "aSUBSET OF ABOVE ALMOST EQUAL TOaSUPERSET OF ABOVE ALMOST EQUAL TO"),
   (0x2ACB, "aSUBSET OF ABOVE NOT EQUAL TOaSUPERSET OF ABOVE NOT EQUAL TO"),
   (0x2ACD, "aSQUARE LEFT OPEN BOX OPERATORbRIGHT OPEN BOX OPERATORaCLOSED SUBSETbSUPERSET"),
   (0x2AD1, "bSUBSET OR EQUAL TObSUPERSET OR EQUAL TOaSUBSET ABOVE SUPERSET"),
   (0x2AD4, "aSUPERSET ABOVE SUBSETaSUBSET ABOVE SUBSETaSUPERSET ABOVE SUPERSET"),
   (0x2AD7, "bBESIDE SUBSETcAND JOINED BY DASH WITH SUBSETaELEMENT OF OPENING DOWNWARDS"),
   (0x2ADA, "aPITCHFORK WITH TEE TOPaTRANSVERSAL INTERSECTIONaFORKINGaNONFORKING"),
   (0x2ADE, "aSHORT LEFT TACKbDOWN TACKbUP TACKaPERPENDICULAR WITH S"),
   (0x2AE2, "aVERTICAL BAR TRIPLE RIGHT TURNSTILEaDOUBLE VERTICAL BAR LEFT TURNSTILE"),
   (0x2AE4, "aVERTICAL BAR DOUBLE LEFT TURNSTILEaDOUBLE VERTICAL BAR DOUBLE LEFT TURNSTILE"),
   (0x2AE6, "aLONG DASH FROM LEFT MEMBER OF DOUBLE VERTICALaSHORT DOWN TACK WITH OVERBAR"),
   (0x2AE8, "bUP TACK WITH UNDERBARdABOVE SHORT DOWN TACKaDOUBLE DOWN TACKbUP TACK"),
   (0x2AEC, "bSTROKE NOT SIGNaREVERSED DOUBLE STROKE NOT SIGN"),
   (0x2AEE, "aDOES NOT DIVIDE WITH REVERSED NEGATION SLASHaVERTICAL LINE WITH CIRCLE ABOVE"),
   (0x2AF0, "eBELOWaDOWN TACK WITH CIRCLE BELOWaPARALLEL WITH HORIZONTAL STROKE"),
   (0x2AF3, "cTILDE OPERATORaTRIPLE VERTICAL BAR BINARY RELATIONdWITH HORIZONTAL STROKE"),
   (0x2AF6, "bCOLON OPERATORbNESTED LESS-THANcGREATER-THAN"),
   (0x2AF9, "aDOUBLE-LINE SLANTED LESS-THAN OR EQUAL TOcGREATER-THAN OR EQUAL TO"),
   (0x2AFB, "aTRIPLE SOLIDUS BINARY RELATIONaLARGE TRIPLE VERTICAL BAR OPERATOR"),
   (0x2AFD, "aDOUBLE SOLIDUS OPERATORaWHITE VERTICAL BARaN-ARY WHITE VERTICAL BAR"),
   (0x2B00, "aNORTH EAST WHITE ARROWbWEST WHITE ARROWaSOUTH EAST WHITE ARROW"),
   (0x2B03, "bWEST WHITE ARROWaLEFT RIGHT WHITE ARROWaLEFTWARDS BLACK ARROW"),
   (0x2B06, "aUPWARDS BLACK ARROWaDOWNWARDS BLACK ARROWaNORTH EAST BLACK ARROW"),
   (0x2B09, "bWEST BLACK ARROWaSOUTH EAST BLACK ARROWbWEST BLACK ARROW"),
   (0x2B0C, "aLEFT RIGHT BLACK ARROWaUP DOWN BLACK ARROWaRIGHTWARDS ARROW WITH TIP DOWNWARDS"),
   (0x2B0F, "eUPWARDSaLEFTWARDS ARROW WITH TIP DOWNWARDSeUPWARDSaSQUARE WITH TOP HALF BLACK"),
   (0x2B13, "cBOTTOM HALF BLACKcUPPER RIGHT DIAGONAL HALF BLACK"),
   (0x2B15, "cLOWER LEFT DIAGONAL HALF BLACKaDIAMOND WITH LEFT HALF BLACKcRIGHT HALF BLACK"),
   (0x2B18, "cTOP HALF BLACKcBOTTOM HALF BLACKaDOTTED SQUAREaBLACK LARGE SQUARE"),
   (0x2B1C, "aWHITE LARGE SQUAREaBLACK VERY SMALL SQUAREaWHITE VERY SMALL SQUARE"),
   (0x2B1F, "aBLACK PENTAGONaWHITE PENTAGONbHEXAGONaBLACK HEXAGONaHORIZONTAL BLACK HEXAGON"),
   (0x2B24, "aBLACK LARGE CIRCLEbMEDIUM DIAMONDaWHITE MEDIUM DIAMONDaBLACK MEDIUM LOZENGE"),
   (0x2B28, "aWHITE MEDIUM LOZENGEaBLACK SMALL DIAMONDcLOZENGEaWHITE SMALL LOZENGE"),
   (0x2B2C, "aBLACK HORIZONTAL ELLIPSEaWHITE HORIZONTAL ELLIPSEaBLACK VERTICAL ELLIPSE"),
   (0x2B2F, "aWHITE VERTICAL ELLIPSEaLEFT ARROW WITH SMALL CIRCLEaTHREE LEFTWARDS ARROWS"),
   (0x2B32, "aLEFT ARROW WITH CIRCLED PLUSaLONG LEFTWARDS SQUIGGLE ARROW"),
   (0x2B34, "aLEFTWARDS TWO-HEADED ARROW WITH VERTICAL STROKEeDOUBLE VERTICAL STROKE"),
   (0x2B36, "dFROM BARcTRIPLE DASH ARROWbARROW WITH DOTTED STEMdTAIL WITH VERTICAL STROKE"),
   (0x2B3A, "fDOUBLE VERTICAL STROKEbTWO-HEADED ARROW WITH TAILfWITH VERTICAL STROKE"),
   (0x2B3D, "gDOUBLE VERTICAL STROKEbARROW THROUGH XaWAVE ARROW POINTING DIRECTLY LEFT"),
   (0x2B40, "aEQUALS SIGN ABOVE LEFTWARDS ARROWaREVERSE TILDE OPERATOR ABOVE LEFTWARDS ARROW"),
   (0x2B42, "aLEFTWARDS ARROW ABOVE REVERSE ALMOST EQUAL TO"),
   (0x2B43, "aRIGHTWARDS ARROW THROUGH GREATER-THANdSUPERSETaLEFTWARDS QUADRUPLE ARROW"),
   (0x2B46, "aRIGHTWARDS QUADRUPLE ARROWaREVERSE TILDE OPERATOR ABOVE RIGHTWARDS ARROW"),
   (0x2B48, "aRIGHTWARDS ARROW ABOVE REVERSE ALMOST EQUAL TO"),
   (0x2B49, "aTILDE OPERATOR ABOVE LEFTWARDS ARROWaLEFTWARDS ARROW ABOVE ALMOST EQUAL TO"),
   (0x2B4B, "dREVERSE TILDE OPERATORaRIGHTWARDS ARROW ABOVE REVERSE TILDE OPERATOR"),
   (0x2B4D, "aDOWNWARDS TRIANGLE-HEADED ZIGZAG ARROWaSHORT SLANTED NORTH ARROW"),
   (0x2B4F, "bBACKSLANTED SOUTH ARROWaWHITE MEDIUM STARaBLACK SMALL STARaWHITE SMALL STAR"),
   (0x2B53, "aBLACK RIGHT-POINTING PENTAGONaWHITE RIGHT-POINTING PENTAGONaHEAVY LARGE CIRCLE"),
   (0x2B56, "bOVAL WITH OVAL INSIDEbCIRCLE WITH CIRCLE INSIDEbCIRCLEbCIRCLED SALTIRE"),
   (0x2B5A, "aSLANTED NORTH ARROW WITH HOOKED HEADaBACKSLANTED SOUTH ARROW WITH HOOKED TAIL"),
   (0x2B5C, "aSLANTED NORTH ARROW WITH HORIZONTAL TAIL"),
   (0x2B5D, "aBACKSLANTED SOUTH ARROW WITH HORIZONTAL TAIL"),
   (0x2B5E, "aBENT ARROW POINTING DOWNWARDS THEN NORTH EAST"),
   (0x2B5F, "aSHORT BENT ARROW POINTING DOWNWARDS THEN NORTH EAST"),
   (0x2B60, "aLEFTWARDS TRIANGLE-HEADED ARROWaUPWARDS TRIANGLE-HEADED ARROW"),
   (0x2B62, "aRIGHTWARDS TRIANGLE-HEADED ARROWaDOWNWARDS TRIANGLE-HEADED ARROW"),
   (0x2B64, "aLEFT RIGHT TRIANGLE-HEADED ARROWaUP DOWN TRIANGLE-HEADED ARROW"),
   (0x2B66, "aNORTH WEST TRIANGLE-HEADED ARROWbEAST TRIANGLE-HEADED ARROW"),
   (0x2B68, "aSOUTH EAST TRIANGLE-HEADED ARROWbWEST TRIANGLE-HEADED ARROW"),
   (0x2B6A, "aLEFTWARDS TRIANGLE-HEADED DASHED ARROWaUPWARDS TRIANGLE-HEADED DASHED ARROW"),
   (0x2B6C, "aRIGHTWARDS TRIANGLE-HEADED DASHED ARROWaDOWNWARDS TRIANGLE-HEADED DASHED ARROW"),
   (0x2B6E, "aCLOCKWISE TRIANGLE-HEADED OPEN CIRCLE ARROW"),
   (0x2B6F, "aANTICLOCKWISE TRIANGLE-HEADED OPEN CIRCLE ARROW"),
   (0x2B70, "aLEFTWARDS TRIANGLE-HEADED ARROW TO BARaUPWARDS TRIANGLE-HEADED ARROW TO BAR"),
   (0x2B72, "aRIGHTWARDS TRIANGLE-HEADED ARROW TO BARaDOWNWARDS TRIANGLE-HEADED ARROW TO BAR"),
   (0x2B76, "aNORTH WEST TRIANGLE-HEADED ARROW TO BARbEAST TRIANGLE-HEADED ARROW TO BAR"),
   (0x2B78, "aSOUTH EAST TRIANGLE-HEADED ARROW TO BARbWEST TRIANGLE-HEADED ARROW TO BAR"),
   (0x2B7A, "aLEFTWARDS TRIANGLE-HEADED ARROW WITH DOUBLE HORIZONTAL STROKE"),
   (0x2B7B, "aUPWARDS TRIANGLE-HEADED ARROW WITH DOUBLE HORIZONTAL STROKE"),
   (0x2B7C, "aRIGHTWARDS TRIANGLE-HEADED ARROW WITH DOUBLE HORIZONTAL STROKE"),
   (0x2B7D, "aDOWNWARDS TRIANGLE-HEADED ARROW WITH DOUBLE HORIZONTAL STROKE"),
   (0x2B7E, "aHORIZONTAL TAB KEYaVERTICAL TAB KEY"),
   (0x2B80, "aLEFTWARDS TRIANGLE-HEADED ARROW OVER RIGHTWARDS TRIANGLE-HEADED ARROW"),
   (0x2B81, "aUPWARDS TRIANGLE-HEADED ARROW LEFTWARDS OF DOWNWARDS TRIANGLE-HEADED ARROW"),
   (0x2B82, "aRIGHTWARDS TRIANGLE-HEADED ARROW OVER LEFTWARDS TRIANGLE-HEADED ARROW"),
   (0x2B83, "aDOWNWARDS TRIANGLE-HEADED ARROW LEFTWARDS OF UPWARDS TRIANGLE-HEADED ARROW"),
   (0x2B84, "aLEFTWARDS TRIANGLE-HEADED PAIRED ARROWSaUPWARDS TRIANGLE-HEADED PAIRED ARROWS"),
   (0x2B86, "aRIGHTWARDS TRIANGLE-HEADED PAIRED ARROWS"),
   (0x2B87, "aDOWNWARDS TRIANGLE-HEADED PAIRED ARROWSaLEFTWARDS BLACK CIRCLED WHITE ARROW"),
   (0x2B89, "aUPWARDS BLACK CIRCLED WHITE ARROWaRIGHTWARDS BLACK CIRCLED WHITE ARROW"),
   (0x2B8B, "aDOWNWARDS BLACK CIRCLED WHITE ARROW"),
   (0x2B8C, "aANTICLOCKWISE TRIANGLE-HEADED RIGHT U-SHAPED ARROWcBOTTOM U-SHAPED ARROW"),
   (0x2B8E, "cLEFT U-SHAPED ARROWcTOP U-SHAPED ARROWaRETURN LEFTbRIGHTaNEWLINE LEFTbRIGHT"),
   (0x2B94, "aFOUR CORNER ARROWS CIRCLING ANTICLOCKWISEaRIGHTWARDS BLACK ARROW"),
   (0x2B97, "aSYMBOL FOR TYPE A ELECTRONICS"),
   (0x2B98, "aTHREE-D TOP-LIGHTED LEFTWARDS EQUILATERAL ARROWHEAD"),
   (0x2B99, "bRIGHT-LIGHTED UPWARDS EQUILATERAL ARROWHEAD"),
   (0x2B9A, "bTOP-LIGHTED RIGHTWARDS EQUILATERAL ARROWHEAD"),
   (0x2B9B, "bLEFT-LIGHTED DOWNWARDS EQUILATERAL ARROWHEAD"),
   (0x2B9C, "aBLACK LEFTWARDS EQUILATERAL ARROWHEADbUPWARDS EQUILATERAL ARROWHEAD"),
   (0x2B9E, "bRIGHTWARDS EQUILATERAL ARROWHEADbDOWNWARDS EQUILATERAL ARROWHEAD"),
   (0x2BA0, "aDOWNWARDS TRIANGLE-HEADED ARROW WITH LONG TIP LEFTWARDSgRIGHTWARDS"),
   (0x2BA2, "aUPWARDS TRIANGLE-HEADED ARROW WITH LONG TIP LEFTWARDSgRIGHTWARDS"),
   (0x2BA4, "aLEFTWARDS TRIANGLE-HEADED ARROW WITH LONG TIP UPWARDS"),
   (0x2BA5, "aRIGHTWARDS TRIANGLE-HEADED ARROW WITH LONG TIP UPWARDS"),
   (0x2BA6, "aLEFTWARDS TRIANGLE-HEADED ARROW WITH LONG TIP DOWNWARDS"),
   (0x2BA7, "aRIGHTWARDS TRIANGLE-HEADED ARROW WITH LONG TIP DOWNWARDS"),
   (0x2BA8, "aBLACK CURVED DOWNWARDS AND LEFTWARDS ARROWeRIGHTWARDS ARROW"),
   (0x2BAA, "cUPWARDS AND LEFTWARDS ARROWeRIGHTWARDS ARROWcLEFTWARDS AND UPWARDS ARROW"),
   (0x2BAD, "cRIGHTWARDS AND UPWARDS ARROWcLEFTWARDS AND DOWNWARDS ARROW"),
   (0x2BAF, "cRIGHTWARDS AND DOWNWARDS ARROWaRIBBON ARROW DOWN LEFTdRIGHTcUP LEFTdRIGHT"),
   (0x2BB4, "cLEFT UPcRIGHT UPcLEFT DOWNcRIGHT DOWN"),
   (0x2BB8, "aUPWARDS WHITE ARROW FROM BAR WITH HORIZONTAL BAR"),
   (0x2BB9, "aUP ARROWHEAD IN A RECTANGLE BOXaOVERLAPPING WHITE SQUAREScAND BLACK SQUARES"),
   (0x2BBC, "bBLACK SQUARESaBALLOT BOX WITH LIGHT XaCIRCLED XbBOLD XaBLACK SQUARE CENTRED"),
   (0x2BC1, "bDIAMOND CENTREDaTURNED BLACK PENTAGONaHORIZONTAL BLACK OCTAGONaBLACK OCTAGON"),
   (0x2BC5, "bMEDIUM UP-POINTING TRIANGLE CENTREDcDOWN-POINTING TRIANGLE CENTRED"),
   (0x2BC7, "cLEFT-POINTING TRIANGLE CENTREDcRIGHT-POINTING TRIANGLE CENTRED"),
   (0x2BC9, "aNEPTUNE FORM TWOaTOP HALF BLACK CIRCLEaBOTTOM HALF BLACK CIRCLE"),
   (0x2BCC, "aLIGHT FOUR POINTED BLACK CUSPaROTATED LIGHT FOUR POINTED BLACK CUSP"),
   (0x2BCE, "aWHITE FOUR POINTED CUSPaROTATED WHITE FOUR POINTED CUSP"),
   (0x2BD0, "aSQUARE POSITION INDICATORaUNCERTAINTY SIGNaGROUP MARKaPLUTO FORM TWOcTHREE"),
   (0x2BD5, "cFOURcFIVEaTRANSPLUTOaPROSERPINAaASTRAEAaHYGIEAaPHOLUSaNESSUSaWHITE MOON SELENA"),
   (0x2BDE, "aBLACK DIAMOND ON CROSSaTRUE LIGHT MOON ARTAaCUPIDOaHADESaZEUSaKRONOSaAPOLLON"),
   (0x2BE5, "aADMETOSaVULCANUSaPOSEIDONaLEFT HALF BLACK STARaRIGHT HALF BLACK STAR"),
   (0x2BEA, "aSTAR WITH LEFT HALF BLACKcRIGHT HALF BLACK"),
   (0x2BEC, "aLEFTWARDS TWO-HEADED ARROW WITH TRIANGLE ARROWHEADS"),
   (0x2BED, "aUPWARDS TWO-HEADED ARROW WITH TRIANGLE ARROWHEADS"),
   (0x2BEE, "aRIGHTWARDS TWO-HEADED ARROW WITH TRIANGLE ARROWHEADS"),
   (0x2BEF, "aDOWNWARDS TWO-HEADED ARROW WITH TRIANGLE ARROWHEADSaERIS FORM ONEcTWOaSEDNA"),
   (0x2BF3, "aRUSSIAN ASTROLOGICAL SYMBOL VIGINTILEdNOVILEdQUINTILEdBINOVILEdSENTAGON"),
   (0x2BF8, "dTREDECILEaEQUALS SIGN WITH INFINITY BELOWaUNITED SYMBOLaSEPARATED SYMBOL"),
   (0x2BFC, "aDOUBLED SYMBOLaPASSED SYMBOLaREVERSED RIGHT ANGLEaHELLSCHREIBER PAUSE SYMBOL")]

end Scriptlet.Text.CharacterNames
