/-
# Names of characters from U+0020 to U+07FF

Latin, Greek, Cyrillic, Armenian, Hebrew, Arabic and their neighbours.
-/

namespace Scriptlet.Text.CharacterNames

def alphabets : List (Nat × String) :=
  [(0x20, "aSPACEaEXCLAMATION MARKaQUOTATION MARKaNUMBER SIGNaDOLLAR SIGNaPERCENT SIGN"),
   (0x26, "aAMPERSANDaAPOSTROPHEaLEFT PARENTHESISaRIGHT PARENTHESISaASTERISKaPLUS SIGN"),
   (0x2C, "aCOMMAaHYPHEN-MINUSaFULL STOPaSOLIDUSaDIGIT ZERObONEbTWObTHREEbFOURbFIVEbSIX"),
   (0x37, "bSEVENbEIGHTbNINEaCOLONaSEMICOLONaLESS-THAN SIGNaEQUALS SIGNaGREATER-THAN SIGN"),
   (0x3F, "aQUESTION MARKaCOMMERCIAL ATaLATIN CAPITAL LETTER AdBdCdDdEdFdGdHdIdJdKdLdMdNdO"),
   (0x50, "dPdQdRdSdTdUdVdWdXdYdZaLEFT SQUARE BRACKETaREVERSE SOLIDUSaRIGHT SQUARE BRACKET"),
   (0x5E, "aCIRCUMFLEX ACCENTaLOW LINEaGRAVE ACCENTaLATIN SMALL LETTER AdBdCdDdEdFdGdHdIdJ"),
   (0x6B, "dKdLdMdNdOdPdQdRdSdTdUdVdWdXdYdZaLEFT CURLY BRACKETaVERTICAL LINE"),
   (0x7D, "aRIGHT CURLY BRACKETaTILDE"),
   (0xA0, "aNO-BREAK SPACEaINVERTED EXCLAMATION MARKaCENT SIGNaPOUND SIGNaCURRENCY SIGN"),
   (0xA5, "aYEN SIGNaBROKEN BARaSECTION SIGNaDIAERESISaCOPYRIGHT SIGN"),
   (0xAA, "aFEMININE ORDINAL INDICATORaLEFT-POINTING DOUBLE ANGLE QUOTATION MARKaNOT SIGN"),
   (0xAD, "aSOFT HYPHENaREGISTERED SIGNaMACRONaDEGREE SIGNaPLUS-MINUS SIGNaSUPERSCRIPT TWO"),
   (0xB3, "bTHREEaACUTE ACCENTaMICRO SIGNaPILCROW SIGNaMIDDLE DOTaCEDILLAaSUPERSCRIPT ONE"),
   (0xBA, "aMASCULINE ORDINAL INDICATORaRIGHT-POINTING DOUBLE ANGLE QUOTATION MARK"),
   (0xBC, "aVULGAR FRACTION ONE QUARTERdHALFcTHREE QUARTERSaINVERTED QUESTION MARK"),
   (0xC0, "aLATIN CAPITAL LETTER A WITH GRAVEfACUTEfCIRCUMFLEXfTILDEfDIAERESISfRING ABOVE"),
   (0xC6, "dAEdC WITH CEDILLAdE WITH GRAVEfACUTEfCIRCUMFLEXfDIAERESISdI WITH GRAVEfACUTE"),
   (0xCE, "fCIRCUMFLEXfDIAERESISdETHdN WITH TILDEdO WITH GRAVEfACUTEfCIRCUMFLEXfTILDE"),
   (0xD6, "fDIAERESISaMULTIPLICATION SIGNaLATIN CAPITAL LETTER O WITH STROKEdU WITH GRAVE"),
   (0xDA, "fACUTEfCIRCUMFLEXfDIAERESISdY WITH ACUTEdTHORNbSMALL LETTER SHARP S"),
   (0xE0, "dA WITH GRAVEfACUTEfCIRCUMFLEXfTILDEfDIAERESISfRING ABOVEdAEdC WITH CEDILLA"),
   (0xE8, "dE WITH GRAVEfACUTEfCIRCUMFLEXfDIAERESISdI WITH GRAVEfACUTEfCIRCUMFLEX"),
   (0xEF, "fDIAERESISdETHdN WITH TILDEdO WITH GRAVEfACUTEfCIRCUMFLEXfTILDEfDIAERESIS"),
   (0xF7, "aDIVISION SIGNaLATIN SMALL LETTER O WITH STROKEdU WITH GRAVEfACUTEfCIRCUMFLEX"),
   (0xFC, "fDIAERESISdY WITH ACUTEdTHORNdY WITH DIAERESISbCAPITAL LETTER A WITH MACRON"),
   (0x101, "bSMALL LETTER A WITH MACRONbCAPITAL LETTER A WITH BREVE"),
   (0x103, "bSMALL LETTER A WITH BREVEbCAPITAL LETTER A WITH OGONEK"),
   (0x105, "bSMALL LETTER A WITH OGONEKbCAPITAL LETTER C WITH ACUTE"),
   (0x107, "bSMALL LETTER C WITH ACUTEbCAPITAL LETTER C WITH CIRCUMFLEX"),
   (0x109, "bSMALL LETTER C WITH CIRCUMFLEXbCAPITAL LETTER C WITH DOT ABOVE"),
   (0x10B, "bSMALL LETTER C WITH DOT ABOVEbCAPITAL LETTER C WITH CARON"),
   (0x10D, "bSMALL LETTER C WITH CARONbCAPITAL LETTER D WITH CARON"),
   (0x10F, "bSMALL LETTER D WITH CARONbCAPITAL LETTER D WITH STROKE"),
   (0x111, "bSMALL LETTER D WITH STROKEbCAPITAL LETTER E WITH MACRON"),
   (0x113, "bSMALL LETTER E WITH MACRONbCAPITAL LETTER E WITH BREVE"),
   (0x115, "bSMALL LETTER E WITH BREVEbCAPITAL LETTER E WITH DOT ABOVE"),
   (0x117, "bSMALL LETTER E WITH DOT ABOVEbCAPITAL LETTER E WITH OGONEK"),
   (0x119, "bSMALL LETTER E WITH OGONEKbCAPITAL LETTER E WITH CARON"),
   (0x11B, "bSMALL LETTER E WITH CARONbCAPITAL LETTER G WITH CIRCUMFLEX"),
   (0x11D, "bSMALL LETTER G WITH CIRCUMFLEXbCAPITAL LETTER G WITH BREVE"),
   (0x11F, "bSMALL LETTER G WITH BREVEbCAPITAL LETTER G WITH DOT ABOVE"),
   (0x121, "bSMALL LETTER G WITH DOT ABOVEbCAPITAL LETTER G WITH CEDILLA"),
   (0x123, "bSMALL LETTER G WITH CEDILLAbCAPITAL LETTER H WITH CIRCUMFLEX"),
   (0x125, "bSMALL LETTER H WITH CIRCUMFLEXbCAPITAL LETTER H WITH STROKE"),
   (0x127, "bSMALL LETTER H WITH STROKEbCAPITAL LETTER I WITH TILDE"),
   (0x129, "bSMALL LETTER I WITH TILDEbCAPITAL LETTER I WITH MACRON"),
   (0x12B, "bSMALL LETTER I WITH MACRONbCAPITAL LETTER I WITH BREVE"),
   (0x12D, "bSMALL LETTER I WITH BREVEbCAPITAL LETTER I WITH OGONEK"),
   (0x12F, "bSMALL LETTER I WITH OGONEKbCAPITAL LETTER I WITH DOT ABOVE"),
   (0x131, "bSMALL LETTER DOTLESS IbCAPITAL LIGATURE IJbSMALL LIGATURE IJ"),
   (0x134, "bCAPITAL LETTER J WITH CIRCUMFLEXbSMALL LETTER J WITH CIRCUMFLEX"),
   (0x136, "bCAPITAL LETTER K WITH CEDILLAbSMALL LETTER K WITH CEDILLAdKRA"),
   (0x139, "bCAPITAL LETTER L WITH ACUTEbSMALL LETTER L WITH ACUTE"),
   (0x13B, "bCAPITAL LETTER L WITH CEDILLAbSMALL LETTER L WITH CEDILLA"),
   (0x13D, "bCAPITAL LETTER L WITH CARONbSMALL LETTER L WITH CARON"),
   (0x13F, "bCAPITAL LETTER L WITH MIDDLE DOTbSMALL LETTER L WITH MIDDLE DOT"),
   (0x141, "bCAPITAL LETTER L WITH STROKEbSMALL LETTER L WITH STROKE"),
   (0x143, "bCAPITAL LETTER N WITH ACUTEbSMALL LETTER N WITH ACUTE"),
   (0x145, "bCAPITAL LETTER N WITH CEDILLAbSMALL LETTER N WITH CEDILLA"),
   (0x147, "bCAPITAL LETTER N WITH CARONbSMALL LETTER N WITH CARONePRECEDED BY APOSTROPHE"),
   (0x14A, "bCAPITAL LETTER ENGbSMALL LETTER ENGbCAPITAL LETTER O WITH MACRON"),
   (0x14D, "bSMALL LETTER O WITH MACRONbCAPITAL LETTER O WITH BREVE"),
   (0x14F, "bSMALL LETTER O WITH BREVEbCAPITAL LETTER O WITH DOUBLE ACUTE"),
   (0x151, "bSMALL LETTER O WITH DOUBLE ACUTEbCAPITAL LIGATURE OEbSMALL LIGATURE OE"),
   (0x154, "bCAPITAL LETTER R WITH ACUTEbSMALL LETTER R WITH ACUTE"),
   (0x156, "bCAPITAL LETTER R WITH CEDILLAbSMALL LETTER R WITH CEDILLA"),
   (0x158, "bCAPITAL LETTER R WITH CARONbSMALL LETTER R WITH CARON"),
   (0x15A, "bCAPITAL LETTER S WITH ACUTEbSMALL LETTER S WITH ACUTE"),
   (0x15C, "bCAPITAL LETTER S WITH CIRCUMFLEXbSMALL LETTER S WITH CIRCUMFLEX"),
   (0x15E, "bCAPITAL LETTER S WITH CEDILLAbSMALL LETTER S WITH CEDILLA"),
   (0x160, "bCAPITAL LETTER S WITH CARONbSMALL LETTER S WITH CARON"),
   (0x162, "bCAPITAL LETTER T WITH CEDILLAbSMALL LETTER T WITH CEDILLA"),
   (0x164, "bCAPITAL LETTER T WITH CARONbSMALL LETTER T WITH CARON"),
   (0x166, "bCAPITAL LETTER T WITH STROKEbSMALL LETTER T WITH STROKE"),
   (0x168, "bCAPITAL LETTER U WITH TILDEbSMALL LETTER U WITH TILDE"),
   (0x16A, "bCAPITAL LETTER U WITH MACRONbSMALL LETTER U WITH MACRON"),
   (0x16C, "bCAPITAL LETTER U WITH BREVEbSMALL LETTER U WITH BREVE"),
   (0x16E, "bCAPITAL LETTER U WITH RING ABOVEbSMALL LETTER U WITH RING ABOVE"),
   (0x170, "bCAPITAL LETTER U WITH DOUBLE ACUTEbSMALL LETTER U WITH DOUBLE ACUTE"),
   (0x172, "bCAPITAL LETTER U WITH OGONEKbSMALL LETTER U WITH OGONEK"),
   (0x174, "bCAPITAL LETTER W WITH CIRCUMFLEXbSMALL LETTER W WITH CIRCUMFLEX"),
   (0x176, "bCAPITAL LETTER Y WITH CIRCUMFLEXbSMALL LETTER Y WITH CIRCUMFLEX"),
   (0x178, "bCAPITAL LETTER Y WITH DIAERESISdZ WITH ACUTEbSMALL LETTER Z WITH ACUTE"),
   (0x17B, "bCAPITAL LETTER Z WITH DOT ABOVEbSMALL LETTER Z WITH DOT ABOVE"),
   (0x17D, "bCAPITAL LETTER Z WITH CARONbSMALL LETTER Z WITH CARONdLONG SdB WITH STROKE"),
   (0x181, "bCAPITAL LETTER B WITH HOOKfTOPBARbSMALL LETTER B WITH TOPBAR"),
   (0x184, "bCAPITAL LETTER TONE SIXbSMALL LETTER TONE SIXbCAPITAL LETTER OPEN O"),
   (0x187, "dC WITH HOOKbSMALL LETTER C WITH HOOKbCAPITAL LETTER AFRICAN DdD WITH HOOK"),
   (0x18B, "fTOPBARbSMALL LETTER D WITH TOPBARdTURNED DELTAbCAPITAL LETTER REVERSED EdSCHWA"),
   (0x190, "dOPEN EdF WITH HOOKbSMALL LETTER F WITH HOOKbCAPITAL LETTER G WITH HOOKdGAMMA"),
   (0x195, "bSMALL LETTER HVbCAPITAL LETTER IOTAdI WITH STROKEdK WITH HOOK"),
   (0x199, "bSMALL LETTER K WITH HOOKdL WITH BARdLAMBDA WITH STROKEbCAPITAL LETTER TURNED M"),
   (0x19D, "dN WITH LEFT HOOKbSMALL LETTER N WITH LONG RIGHT LEG"),
   (0x19F, "bCAPITAL LETTER O WITH MIDDLE TILDEfHORNbSMALL LETTER O WITH HORN"),
   (0x1A2, "bCAPITAL LETTER OIbSMALL LETTER OIbCAPITAL LETTER P WITH HOOK"),
   (0x1A5, "bSMALL LETTER P WITH HOOKbLETTER YRbCAPITAL LETTER TONE TWO"),
   (0x1A8, "bSMALL LETTER TONE TWObCAPITAL LETTER ESHbLETTER REVERSED ESH LOOP"),
   (0x1AB, "bSMALL LETTER T WITH PALATAL HOOKbCAPITAL LETTER T WITH HOOK"),
   (0x1AD, "bSMALL LETTER T WITH HOOKbCAPITAL LETTER T WITH RETROFLEX HOOKdU WITH HORN"),
   (0x1B0, "bSMALL LETTER U WITH HORNbCAPITAL LETTER UPSILONdV WITH HOOKdY WITH HOOK"),
   (0x1B4, "bSMALL LETTER Y WITH HOOKbCAPITAL LETTER Z WITH STROKE"),
   (0x1B6, "bSMALL LETTER Z WITH STROKEbCAPITAL LETTER EZHeREVERSED"),
   (0x1B9, "bSMALL LETTER EZH REVERSEDeWITH TAILbLETTER TWO WITH STROKE"),
   (0x1BC, "bCAPITAL LETTER TONE FIVEbSMALL LETTER TONE FIVE"),
   (0x1BE, "bLETTER INVERTED GLOTTAL STOP WITH STROKEcWYNNcDENTAL CLICKcLATERAL CLICK"),
   (0x1C2, "cALVEOLAR CLICKcRETROFLEX CLICKbCAPITAL LETTER DZ WITH CARON"),
   (0x1C5, "dD WITH SMALL LETTER Z WITH CARONbSMALL LETTER DZ WITH CARONbCAPITAL LETTER LJ"),
   (0x1C8, "dL WITH SMALL LETTER JbSMALL LETTER LJbCAPITAL LETTER NJdN WITH SMALL LETTER J"),
   (0x1CC, "bSMALL LETTER NJbCAPITAL LETTER A WITH CARONbSMALL LETTER A WITH CARON"),
   (0x1CF, "bCAPITAL LETTER I WITH CARONbSMALL LETTER I WITH CARON"),
   (0x1D1, "bCAPITAL LETTER O WITH CARONbSMALL LETTER O WITH CARON"),
   (0x1D3, "bCAPITAL LETTER U WITH CARONbSMALL LETTER U WITH CARON"),
   (0x1D5, "bCAPITAL LETTER U WITH DIAERESIS AND MACRON"),
   (0x1D6, "bSMALL LETTER U WITH DIAERESIS AND MACRON"),
   (0x1D7, "bCAPITAL LETTER U WITH DIAERESIS AND ACUTE"),
   (0x1D8, "bSMALL LETTER U WITH DIAERESIS AND ACUTE"),
   (0x1D9, "bCAPITAL LETTER U WITH DIAERESIS AND CARON"),
   (0x1DA, "bSMALL LETTER U WITH DIAERESIS AND CARON"),
   (0x1DB, "bCAPITAL LETTER U WITH DIAERESIS AND GRAVE"),
   (0x1DC, "bSMALL LETTER U WITH DIAERESIS AND GRAVEdTURNED E"),
   (0x1DE, "bCAPITAL LETTER A WITH DIAERESIS AND MACRON"),
   (0x1DF, "bSMALL LETTER A WITH DIAERESIS AND MACRON"),
   (0x1E0, "bCAPITAL LETTER A WITH DOT ABOVE AND MACRON"),
   (0x1E1, "bSMALL LETTER A WITH DOT ABOVE AND MACRONbCAPITAL LETTER AE WITH MACRON"),
   (0x1E3, "bSMALL LETTER AE WITH MACRONbCAPITAL LETTER G WITH STROKE"),
   (0x1E5, "bSMALL LETTER G WITH STROKEbCAPITAL LETTER G WITH CARON"),
   (0x1E7, "bSMALL LETTER G WITH CARONbCAPITAL LETTER K WITH CARON"),
   (0x1E9, "bSMALL LETTER K WITH CARONbCAPITAL LETTER O WITH OGONEK"),
   (0x1EB, "bSMALL LETTER O WITH OGONEKbCAPITAL LETTER O WITH OGONEK AND MACRON"),
   (0x1ED, "bSMALL LETTER O WITH OGONEK AND MACRONbCAPITAL LETTER EZH WITH CARON"),
   (0x1EF, "bSMALL LETTER EZH WITH CARONdJ WITH CARONbCAPITAL LETTER DZ"),
   (0x1F2, "dD WITH SMALL LETTER ZbSMALL LETTER DZbCAPITAL LETTER G WITH ACUTE"),
   (0x1F5, "bSMALL LETTER G WITH ACUTEbCAPITAL LETTER HWAIRdWYNNdN WITH GRAVE"),
   (0x1F9, "bSMALL LETTER N WITH GRAVEbCAPITAL LETTER A WITH RING ABOVE AND ACUTE"),
   (0x1FB, "bSMALL LETTER A WITH RING ABOVE AND ACUTEbCAPITAL LETTER AE WITH ACUTE"),
   (0x1FD, "bSMALL LETTER AE WITH ACUTEbCAPITAL LETTER O WITH STROKE AND ACUTE"),
   (0x1FF, "bSMALL LETTER O WITH STROKE AND ACUTEbCAPITAL LETTER A WITH DOUBLE GRAVE"),
   (0x201, "bSMALL LETTER A WITH DOUBLE GRAVEbCAPITAL LETTER A WITH INVERTED BREVE"),
   (0x203, "bSMALL LETTER A WITH INVERTED BREVEbCAPITAL LETTER E WITH DOUBLE GRAVE"),
   (0x205, "bSMALL LETTER E WITH DOUBLE GRAVEbCAPITAL LETTER E WITH INVERTED BREVE"),
   (0x207, "bSMALL LETTER E WITH INVERTED BREVEbCAPITAL LETTER I WITH DOUBLE GRAVE"),
   (0x209, "bSMALL LETTER I WITH DOUBLE GRAVEbCAPITAL LETTER I WITH INVERTED BREVE"),
   (0x20B, "bSMALL LETTER I WITH INVERTED BREVEbCAPITAL LETTER O WITH DOUBLE GRAVE"),
   (0x20D, "bSMALL LETTER O WITH DOUBLE GRAVEbCAPITAL LETTER O WITH INVERTED BREVE"),
   (0x20F, "bSMALL LETTER O WITH INVERTED BREVEbCAPITAL LETTER R WITH DOUBLE GRAVE"),
   (0x211, "bSMALL LETTER R WITH DOUBLE GRAVEbCAPITAL LETTER R WITH INVERTED BREVE"),
   (0x213, "bSMALL LETTER R WITH INVERTED BREVEbCAPITAL LETTER U WITH DOUBLE GRAVE"),
   (0x215, "bSMALL LETTER U WITH DOUBLE GRAVEbCAPITAL LETTER U WITH INVERTED BREVE"),
   (0x217, "bSMALL LETTER U WITH INVERTED BREVEbCAPITAL LETTER S WITH COMMA BELOW"),
   (0x219, "bSMALL LETTER S WITH COMMA BELOWbCAPITAL LETTER T WITH COMMA BELOW"),
   (0x21B, "bSMALL LETTER T WITH COMMA BELOWbCAPITAL LETTER YOGHbSMALL LETTER YOGH"),
   (0x21E, "bCAPITAL LETTER H WITH CARONbSMALL LETTER H WITH CARON"),
   (0x220, "bCAPITAL LETTER N WITH LONG RIGHT LEGbSMALL LETTER D WITH CURL"),
   (0x222, "bCAPITAL LETTER OUbSMALL LETTER OUbCAPITAL LETTER Z WITH HOOK"),
   (0x225, "bSMALL LETTER Z WITH HOOKbCAPITAL LETTER A WITH DOT ABOVE"),
   (0x227, "bSMALL LETTER A WITH DOT ABOVEbCAPITAL LETTER E WITH CEDILLA"),
   (0x229, "bSMALL LETTER E WITH CEDILLAbCAPITAL LETTER O WITH DIAERESIS AND MACRON"),
   (0x22B, "bSMALL LETTER O WITH DIAERESIS AND MACRON"),
   (0x22C, "bCAPITAL LETTER O WITH TILDE AND MACRONbSMALL LETTER O WITH TILDE AND MACRON"),
   (0x22E, "bCAPITAL LETTER O WITH DOT ABOVEbSMALL LETTER O WITH DOT ABOVE"),
   (0x230, "bCAPITAL LETTER O WITH DOT ABOVE AND MACRON"),
   (0x231, "bSMALL LETTER O WITH DOT ABOVE AND MACRONbCAPITAL LETTER Y WITH MACRON"),
   (0x233, "bSMALL LETTER Y WITH MACRONdL WITH CURLdN WITH CURLdT WITH CURLdDOTLESS J"),
   (0x238, "dDB DIGRAPHdQP DIGRAPHbCAPITAL LETTER A WITH STROKEdC WITH STROKE"),
   (0x23C, "bSMALL LETTER C WITH STROKEbCAPITAL LETTER L WITH BARdT WITH DIAGONAL STROKE"),
   (0x23F, "bSMALL LETTER S WITH SWASH TAILdZ WITH SWASH TAILbCAPITAL LETTER GLOTTAL STOP"),
   (0x242, "bSMALL LETTER GLOTTAL STOPbCAPITAL LETTER B WITH STROKEdU BARdTURNED V"),
   (0x246, "dE WITH STROKEbSMALL LETTER E WITH STROKEbCAPITAL LETTER J WITH STROKE"),
   (0x249, "bSMALL LETTER J WITH STROKEbCAPITAL LETTER SMALL Q WITH HOOK TAIL"),
   (0x24B, "bSMALL LETTER Q WITH HOOK TAILbCAPITAL LETTER R WITH STROKE"),
   (0x24D, "bSMALL LETTER R WITH STROKEbCAPITAL LETTER Y WITH STROKE"),
   (0x24F, "bSMALL LETTER Y WITH STROKEdTURNED AdALPHAdTURNED ALPHAdB WITH HOOKdOPEN O"),
   (0x255, "dC WITH CURLdD WITH TAILfHOOKdREVERSED EdSCHWAeWITH HOOKdOPEN EdREVERSED OPEN E"),
   (0x25D, "gWITH HOOKdCLOSED REVERSED OPEN EdDOTLESS J WITH STROKEdG WITH HOOKdSCRIPT G"),
   (0x262, "bLETTER SMALL CAPITAL GbSMALL LETTER GAMMAdRAMS HORNdTURNED HdH WITH HOOK"),
   (0x267, "dHENG WITH HOOKdI WITH STROKEdIOTAbLETTER SMALL CAPITAL I"),
   (0x26B, "bSMALL LETTER L WITH MIDDLE TILDEfBELTfRETROFLEX HOOKdLEZHdTURNED M"),
   (0x270, "fWITH LONG LEGdM WITH HOOKdN WITH LEFT HOOKfRETROFLEX HOOK"),
   (0x274, "bLETTER SMALL CAPITAL NbSMALL LETTER BARRED ObLETTER SMALL CAPITAL OE"),
   (0x277, "bSMALL LETTER CLOSED OMEGAdPHIdTURNED RfWITH LONG LEGgHOOKdR WITH LONG LEGfTAIL"),
   (0x27E, "fFISHHOOKdREVERSED R WITH FISHHOOKbLETTER SMALL CAPITAL ReINVERTED R"),
   (0x282, "bSMALL LETTER S WITH HOOKdESHdDOTLESS J WITH STROKE AND HOOKdSQUAT REVERSED ESH"),
   (0x286, "dESH WITH CURLdTURNED TdT WITH RETROFLEX HOOKdU BARdUPSILONdV WITH HOOK"),
   (0x28C, "dTURNED VeWeYbLETTER SMALL CAPITAL YbSMALL LETTER Z WITH RETROFLEX HOOKfCURL"),
   (0x292, "dEZHeWITH CURLbLETTER GLOTTAL STOPcPHARYNGEAL VOICED FRICATIVE"),
   (0x296, "cINVERTED GLOTTAL STOPcSTRETCHED CcBILABIAL CLICKcSMALL CAPITAL B"),
   (0x29A, "bSMALL LETTER CLOSED OPEN EbLETTER SMALL CAPITAL G WITH HOOKeH"),
   (0x29D, "bSMALL LETTER J WITH CROSSED-TAILdTURNED KbLETTER SMALL CAPITAL L"),
   (0x2A0, "bSMALL LETTER Q WITH HOOKbLETTER GLOTTAL STOP WITH STROKE"),
   (0x2A2, "cREVERSED GLOTTAL STOP WITH STROKEbSMALL LETTER DZ DIGRAPHdDEZH DIGRAPH"),
   (0x2A5, "dDZ DIGRAPH WITH CURLdTS DIGRAPHdTESH DIGRAPHdTC DIGRAPH WITH CURLdFENG DIGRAPH"),
   (0x2AA, "dLS DIGRAPHdLZ DIGRAPHbLETTER BILABIAL PERCUSSIVEcBIDENTAL PERCUSSIVE"),
   (0x2AE, "bSMALL LETTER TURNED H WITH FISHHOOKhAND TAILaMODIFIER LETTER SMALL HeWITH HOOK"),
   (0x2B2, "dJdRdTURNED RfWITH HOOKdCAPITAL INVERTED RdWdYcPRIMEcDOUBLE PRIMEcTURNED COMMA"),
   (0x2BC, "cAPOSTROPHEcREVERSED COMMAcRIGHT HALF RINGcLEFT HALF RINGcGLOTTAL STOP"),
   (0x2C1, "cREVERSED GLOTTAL STOPcLEFT ARROWHEADcRIGHT ARROWHEADcUP ARROWHEAD"),
   (0x2C5, "cDOWN ARROWHEADcCIRCUMFLEX ACCENTaCARONaMODIFIER LETTER VERTICAL LINEcMACRON"),
   (0x2CA, "cACUTE ACCENTcGRAVE ACCENTcLOW VERTICAL LINEdMACRONdGRAVE ACCENTdACUTE ACCENT"),
   (0x2D0, "cTRIANGULAR COLONcHALF TRIANGULAR COLONcCENTRED RIGHT HALF RINGdLEFT HALF RING"),
   (0x2D4, "cUP TACKcDOWN TACKcPLUS SIGNcMINUS SIGNaBREVEaDOT ABOVEaRING ABOVEaOGONEK"),
   (0x2DC, "aSMALL TILDEaDOUBLE ACUTE ACCENTaMODIFIER LETTER RHOTIC HOOKcCROSS ACCENT"),
   (0x2E0, "cSMALL GAMMAdLdSdXdREVERSED GLOTTAL STOPcEXTRA-HIGH TONE BARcHIGH TONE BAR"),
   (0x2E7, "cMID TONE BARcLOW TONE BARcEXTRA-LOW TONE BARcYIN DEPARTING TONE MARK"),
   (0x2EB, "cYANG DEPARTING TONE MARKcVOICINGcUNASPIRATEDcDOUBLE APOSTROPHE"),
   (0x2EF, "cLOW DOWN ARROWHEADdUP ARROWHEADdLEFT ARROWHEADdRIGHT ARROWHEADdRING"),
   (0x2F4, "cMIDDLE GRAVE ACCENTdDOUBLE GRAVE ACCENTeACUTE ACCENTcLOW TILDEcRAISED COLON"),
   (0x2F9, "cBEGIN HIGH TONEcEND HIGH TONEcBEGIN LOW TONEcEND LOW TONEcSHELFcOPEN SHELF"),
   (0x2FF, "cLOW LEFT ARROWaCOMBINING GRAVE ACCENTbACUTE ACCENTbCIRCUMFLEX ACCENTbTILDE"),
   (0x304, "bMACRONbOVERLINEbBREVEbDOT ABOVEbDIAERESISbHOOK ABOVEbRING ABOVE"),
   (0x30B, "bDOUBLE ACUTE ACCENTbCARONbVERTICAL LINE ABOVEbDOUBLE VERTICAL LINE ABOVE"),
   (0x30F, "cGRAVE ACCENTbCANDRABINDUbINVERTED BREVEbTURNED COMMA ABOVEbCOMMA ABOVE"),
   (0x314, "bREVERSED COMMA ABOVEbCOMMA ABOVE RIGHTbGRAVE ACCENT BELOWbACUTE ACCENT BELOW"),
   (0x318, "bLEFT TACK BELOWbRIGHT TACK BELOWbLEFT ANGLE ABOVEbHORNbLEFT HALF RING BELOW"),
   (0x31D, "bUP TACK BELOWbDOWN TACK BELOWbPLUS SIGN BELOWbMINUS SIGN BELOW"),
   (0x321, "bPALATALIZED HOOK BELOWbRETROFLEX HOOK BELOWbDOT BELOWbDIAERESIS BELOW"),
   (0x325, "bRING BELOWbCOMMA BELOWbCEDILLAbOGONEKbVERTICAL LINE BELOWbBRIDGE BELOW"),
   (0x32B, "bINVERTED DOUBLE ARCH BELOWbCARON BELOWbCIRCUMFLEX ACCENT BELOWbBREVE BELOW"),
   (0x32F, "bINVERTED BREVE BELOWbTILDE BELOWbMACRON BELOWbLOW LINEbDOUBLE LOW LINE"),
   (0x334, "bTILDE OVERLAYbSHORT STROKE OVERLAYbLONG STROKE OVERLAYbSHORT SOLIDUS OVERLAY"),
   (0x338, "bLONG SOLIDUS OVERLAYbRIGHT HALF RING BELOWbINVERTED BRIDGE BELOWbSQUARE BELOW"),
   (0x33C, "bSEAGULL BELOWbX ABOVEbVERTICAL TILDEbDOUBLE OVERLINEbGRAVE TONE MARK"),
   (0x341, "bACUTE TONE MARKbGREEK PERISPOMENIcKORONIScDIALYTIKA TONOScYPOGEGRAMMENI"),
   (0x346, "bBRIDGE ABOVEbEQUALS SIGN BELOWbDOUBLE VERTICAL LINE BELOWbLEFT ANGLE BELOW"),
   (0x34A, "bNOT TILDE ABOVEbHOMOTHETIC ABOVEbALMOST EQUAL TO ABOVEbLEFT RIGHT ARROW BELOW"),
   (0x34E, "bUPWARDS ARROW BELOWbGRAPHEME JOINERbRIGHT ARROWHEAD ABOVEbLEFT HALF RING ABOVE"),
   (0x352, "bFERMATAbX BELOWbLEFT ARROWHEAD BELOWbRIGHT ARROWHEAD BELOW"),
   (0x356, "dAND UP ARROWHEAD BELOWcHALF RING ABOVEbDOT ABOVE RIGHTbASTERISK BELOW"),
   (0x35A, "bDOUBLE RING BELOWbZIGZAG ABOVEbDOUBLE BREVE BELOWcBREVEcMACRONdBELOWcTILDE"),
   (0x361, "cINVERTED BREVEcRIGHTWARDS ARROW BELOWbLATIN SMALL LETTER AeEeIeOeUeCeDeHeMeReT"),
   (0x36E, "eVeXaGREEK CAPITAL LETTER HETAbSMALL LETTER HETAbCAPITAL LETTER ARCHAIC SAMPI"),
   (0x373, "bSMALL LETTER ARCHAIC SAMPIbNUMERAL SIGNbLOWER NUMERAL SIGN"),
   (0x376, "bCAPITAL LETTER PAMPHYLIAN DIGAMMAbSMALL LETTER PAMPHYLIAN DIGAMMA"),
   (0x37A, "bYPOGEGRAMMENIbSMALL REVERSED LUNATE SIGMA SYMBOLcDOTTED LUNATE SIGMA SYMBOL"),
   (0x37D, "cREVERSED DOTTED LUNATE SIGMA SYMBOLbQUESTION MARKbCAPITAL LETTER YOT"),
   (0x384, "bTONOSbDIALYTIKA TONOSbCAPITAL LETTER ALPHA WITH TONOSbANO TELEIA"),
   (0x388, "bCAPITAL LETTER EPSILON WITH TONOSdETA WITH TONOSdIOTA WITH TONOS"),
   (0x38C, "dOMICRON WITH TONOS"),
   (0x38E, "dUPSILON WITH TONOSdOMEGA WITH TONOSbSMALL LETTER IOTA WITH DIALYTIKA AND TONOS"),
   (0x391, "bCAPITAL LETTER ALPHAdBETAdGAMMAdDELTAdEPSILONdZETAdETAdTHETAdIOTAdKAPPAdLAMDA"),
   (0x39C, "dMUdNUdXIdOMICRONdPIdRHO"),
   (0x3A3, "dSIGMAdTAUdUPSILONdPHIdCHIdPSIdOMEGAdIOTA WITH DIALYTIKAdUPSILON WITH DIALYTIKA"),
   (0x3AC, "bSMALL LETTER ALPHA WITH TONOSdEPSILON WITH TONOSdETA WITH TONOS"),
   (0x3AF, "dIOTA WITH TONOSdUPSILON WITH DIALYTIKA AND TONOSdALPHAdBETAdGAMMAdDELTA"),
   (0x3B5, "dEPSILONdZETAdETAdTHETAdIOTAdKAPPAdLAMDAdMUdNUdXIdOMICRONdPIdRHOdFINAL SIGMA"),
   (0x3C3, "dSIGMAdTAUdUPSILONdPHIdCHIdPSIdOMEGAdIOTA WITH DIALYTIKAdUPSILON WITH DIALYTIKA"),
   (0x3CC, "dOMICRON WITH TONOSdUPSILON WITH TONOSdOMEGA WITH TONOSbCAPITAL KAI SYMBOL"),
   (0x3D0, "bBETA SYMBOLbTHETA SYMBOLbUPSILON WITH HOOK SYMBOLdACUTE AND HOOK SYMBOL"),
   (0x3D4, "dDIAERESIS AND HOOK SYMBOLbPHI SYMBOLbPI SYMBOLbKAI SYMBOLbLETTER ARCHAIC KOPPA"),
   (0x3D9, "bSMALL LETTER ARCHAIC KOPPAbLETTER STIGMAbSMALL LETTER STIGMAbLETTER DIGAMMA"),
   (0x3DD, "bSMALL LETTER DIGAMMAbLETTER KOPPAbSMALL LETTER KOPPAbLETTER SAMPI"),
   (0x3E1, "bSMALL LETTER SAMPIaCOPTIC CAPITAL LETTER SHEIbSMALL LETTER SHEI"),
   (0x3E4, "bCAPITAL LETTER FEIbSMALL LETTER FEIbCAPITAL LETTER KHEIbSMALL LETTER KHEI"),
   (0x3E8, "bCAPITAL LETTER HORIbSMALL LETTER HORIbCAPITAL LETTER GANGIA"),
   (0x3EB, "bSMALL LETTER GANGIAbCAPITAL LETTER SHIMAbSMALL LETTER SHIMAbCAPITAL LETTER DEI"),
   (0x3EF, "bSMALL LETTER DEIaGREEK KAPPA SYMBOLbRHO SYMBOLbLUNATE SIGMA SYMBOLbLETTER YOT"),
   (0x3F4, "bCAPITAL THETA SYMBOLbLUNATE EPSILON SYMBOLbREVERSED LUNATE EPSILON SYMBOL"),
   (0x3F7, "bCAPITAL LETTER SHObSMALL LETTER SHObCAPITAL LUNATE SIGMA SYMBOLcLETTER SAN"),
   (0x3FB, "bSMALL LETTER SANbRHO WITH STROKE SYMBOLbCAPITAL REVERSED LUNATE SIGMA SYMBOL"),
   (0x3FE, "cDOTTED LUNATE SIGMA SYMBOLcREVERSED DOTTED LUNATE SIGMA SYMBOL"),
   (0x400, "aCYRILLIC CAPITAL LETTER IE WITH GRAVEdIOdDJEdGJEdUKRAINIAN IEdDZE"),
   (0x406, "dBYELORUSSIAN-UKRAINIAN IdYIdJEdLJEdNJEdTSHEdKJEdI WITH GRAVEdSHORT UdDZHEdAdBE"),
   (0x412, "dVEdGHEdDEdIEdZHEdZEdIdSHORT IdKAdELdEMdENdOdPEdERdESdTEdUdEFdHAdTSEdCHEdSHA"),
   (0x429, "dSHCHAdHARD SIGNdYERUdSOFT SIGNdEdYUdYAbSMALL LETTER AdBEdVEdGHEdDEdIEdZHEdZEdI"),
   (0x439, "dSHORT IdKAdELdEMdENdOdPEdERdESdTEdUdEFdHAdTSEdCHEdSHAdSHCHAdHARD SIGNdYERU"),
   (0x44C, "dSOFT SIGNdEdYUdYAdIE WITH GRAVEdIOdDJEdGJEdUKRAINIAN IEdDZE"),
   (0x456, "dBYELORUSSIAN-UKRAINIAN IdYIdJEdLJEdNJEdTSHEdKJEdI WITH GRAVEdSHORT UdDZHE"),
   (0x460, "bCAPITAL LETTER OMEGAbSMALL LETTER OMEGAbCAPITAL LETTER YATbSMALL LETTER YAT"),
   (0x464, "bCAPITAL LETTER IOTIFIED EbSMALL LETTER IOTIFIED EbCAPITAL LETTER LITTLE YUS"),
   (0x467, "bSMALL LETTER LITTLE YUSbCAPITAL LETTER IOTIFIED LITTLE YUS"),
   (0x469, "bSMALL LETTER IOTIFIED LITTLE YUSbCAPITAL LETTER BIG YUSbSMALL LETTER BIG YUS"),
   (0x46C, "bCAPITAL LETTER IOTIFIED BIG YUSbSMALL LETTER IOTIFIED BIG YUS"),
   (0x46E, "bCAPITAL LETTER KSIbSMALL LETTER KSIbCAPITAL LETTER PSIbSMALL LETTER PSI"),
   (0x472, "bCAPITAL LETTER FITAbSMALL LETTER FITAbCAPITAL LETTER IZHITSA"),
   (0x475, "bSMALL LETTER IZHITSAbCAPITAL LETTER IZHITSA WITH DOUBLE GRAVE ACCENT"),
   (0x477, "bSMALL LETTER IZHITSA WITH DOUBLE GRAVE ACCENTbCAPITAL LETTER UK"),
   (0x479, "bSMALL LETTER UKbCAPITAL LETTER ROUND OMEGAbSMALL LETTER ROUND OMEGA"),
   (0x47C, "bCAPITAL LETTER OMEGA WITH TITLObSMALL LETTER OMEGA WITH TITLO"),
   (0x47E, "bCAPITAL LETTER OTbSMALL LETTER OTbCAPITAL LETTER KOPPAbSMALL LETTER KOPPA"),
   (0x482, "bTHOUSANDS SIGNaCOMBINING CYRILLIC TITLOcPALATALIZATIONcDASIA PNEUMATA"),
   (0x486, "cPSILI PNEUMATAcPOKRYTIEcHUNDRED THOUSANDS SIGNcMILLIONS SIGN"),
   (0x48A, "aCYRILLIC CAPITAL LETTER SHORT I WITH TAILbSMALL LETTER SHORT I WITH TAIL"),
   (0x48C, "bCAPITAL LETTER SEMISOFT SIGNbSMALL LETTER SEMISOFT SIGN"),
   (0x48E, "bCAPITAL LETTER ER WITH TICKbSMALL LETTER ER WITH TICK"),
   (0x490, "bCAPITAL LETTER GHE WITH UPTURNbSMALL LETTER GHE WITH UPTURN"),
   (0x492, "bCAPITAL LETTER GHE WITH STROKEbSMALL LETTER GHE WITH STROKE"),
   (0x494, "bCAPITAL LETTER GHE WITH MIDDLE HOOKbSMALL LETTER GHE WITH MIDDLE HOOK"),
   (0x496, "bCAPITAL LETTER ZHE WITH DESCENDERbSMALL LETTER ZHE WITH DESCENDER"),
   (0x498, "bCAPITAL LETTER ZE WITH DESCENDERbSMALL LETTER ZE WITH DESCENDER"),
   (0x49A, "bCAPITAL LETTER KA WITH DESCENDERbSMALL LETTER KA WITH DESCENDER"),
   (0x49C, "bCAPITAL LETTER KA WITH VERTICAL STROKEbSMALL LETTER KA WITH VERTICAL STROKE"),
   (0x49E, "bCAPITAL LETTER KA WITH STROKEbSMALL LETTER KA WITH STROKE"),
   (0x4A0, "bCAPITAL LETTER BASHKIR KAbSMALL LETTER BASHKIR KA"),
   (0x4A2, "bCAPITAL LETTER EN WITH DESCENDERbSMALL LETTER EN WITH DESCENDER"),
   (0x4A4, "bCAPITAL LIGATURE EN GHEbSMALL LIGATURE EN GHE"),
   (0x4A6, "bCAPITAL LETTER PE WITH MIDDLE HOOKbSMALL LETTER PE WITH MIDDLE HOOK"),
   (0x4A8, "bCAPITAL LETTER ABKHASIAN HAbSMALL LETTER ABKHASIAN HA"),
   (0x4AA, "bCAPITAL LETTER ES WITH DESCENDERbSMALL LETTER ES WITH DESCENDER"),
   (0x4AC, "bCAPITAL LETTER TE WITH DESCENDERbSMALL LETTER TE WITH DESCENDER"),
   (0x4AE, "bCAPITAL LETTER STRAIGHT UbSMALL LETTER STRAIGHT U"),
   (0x4B0, "bCAPITAL LETTER STRAIGHT U WITH STROKEbSMALL LETTER STRAIGHT U WITH STROKE"),
   (0x4B2, "bCAPITAL LETTER HA WITH DESCENDERbSMALL LETTER HA WITH DESCENDER"),
   (0x4B4, "bCAPITAL LIGATURE TE TSEbSMALL LIGATURE TE TSE"),
   (0x4B6, "bCAPITAL LETTER CHE WITH DESCENDERbSMALL LETTER CHE WITH DESCENDER"),
   (0x4B8, "bCAPITAL LETTER CHE WITH VERTICAL STROKEbSMALL LETTER CHE WITH VERTICAL STROKE"),
   (0x4BA, "bCAPITAL LETTER SHHAbSMALL LETTER SHHAbCAPITAL LETTER ABKHASIAN CHE"),
   (0x4BD, "bSMALL LETTER ABKHASIAN CHEbCAPITAL LETTER ABKHASIAN CHE WITH DESCENDER"),
   (0x4BF, "bSMALL LETTER ABKHASIAN CHE WITH DESCENDERbLETTER PALOCHKA"),
   (0x4C1, "bCAPITAL LETTER ZHE WITH BREVEbSMALL LETTER ZHE WITH BREVE"),
   (0x4C3, "bCAPITAL LETTER KA WITH HOOKbSMALL LETTER KA WITH HOOK"),
   (0x4C5, "bCAPITAL LETTER EL WITH TAILbSMALL LETTER EL WITH TAIL"),
   (0x4C7, "bCAPITAL LETTER EN WITH HOOKbSMALL LETTER EN WITH HOOK"),
   (0x4C9, "bCAPITAL LETTER EN WITH TAILbSMALL LETTER EN WITH TAIL"),
   (0x4CB, "bCAPITAL LETTER KHAKASSIAN CHEbSMALL LETTER KHAKASSIAN CHE"),
   (0x4CD, "bCAPITAL LETTER EM WITH TAILbSMALL LETTER EM WITH TAILdPALOCHKA"),
   (0x4D0, "bCAPITAL LETTER A WITH BREVEbSMALL LETTER A WITH BREVE"),
   (0x4D2, "bCAPITAL LETTER A WITH DIAERESISbSMALL LETTER A WITH DIAERESIS"),
   (0x4D4, "bCAPITAL LIGATURE A IEbSMALL LIGATURE A IEbCAPITAL LETTER IE WITH BREVE"),
   (0x4D7, "bSMALL LETTER IE WITH BREVEbCAPITAL LETTER SCHWAbSMALL LETTER SCHWA"),
   (0x4DA, "bCAPITAL LETTER SCHWA WITH DIAERESISbSMALL LETTER SCHWA WITH DIAERESIS"),
   (0x4DC, "bCAPITAL LETTER ZHE WITH DIAERESISbSMALL LETTER ZHE WITH DIAERESIS"),
   (0x4DE, "bCAPITAL LETTER ZE WITH DIAERESISbSMALL LETTER ZE WITH DIAERESIS"),
   (0x4E0, "bCAPITAL LETTER ABKHASIAN DZEbSMALL LETTER ABKHASIAN DZE"),
   (0x4E2, "bCAPITAL LETTER I WITH MACRONbSMALL LETTER I WITH MACRON"),
   (0x4E4, "bCAPITAL LETTER I WITH DIAERESISbSMALL LETTER I WITH DIAERESIS"),
   (0x4E6, "bCAPITAL LETTER O WITH DIAERESISbSMALL LETTER O WITH DIAERESIS"),
   (0x4E8, "bCAPITAL LETTER BARRED ObSMALL LETTER BARRED O"),
   (0x4EA, "bCAPITAL LETTER BARRED O WITH DIAERESISbSMALL LETTER BARRED O WITH DIAERESIS"),
   (0x4EC, "bCAPITAL LETTER E WITH DIAERESISbSMALL LETTER E WITH DIAERESIS"),
   (0x4EE, "bCAPITAL LETTER U WITH MACRONbSMALL LETTER U WITH MACRON"),
   (0x4F0, "bCAPITAL LETTER U WITH DIAERESISbSMALL LETTER U WITH DIAERESIS"),
   (0x4F2, "bCAPITAL LETTER U WITH DOUBLE ACUTEbSMALL LETTER U WITH DOUBLE ACUTE"),
   (0x4F4, "bCAPITAL LETTER CHE WITH DIAERESISbSMALL LETTER CHE WITH DIAERESIS"),
   (0x4F6, "bCAPITAL LETTER GHE WITH DESCENDERbSMALL LETTER GHE WITH DESCENDER"),
   (0x4F8, "bCAPITAL LETTER YERU WITH DIAERESISbSMALL LETTER YERU WITH DIAERESIS"),
   (0x4FA, "bCAPITAL LETTER GHE WITH STROKE AND HOOKbSMALL LETTER GHE WITH STROKE AND HOOK"),
   (0x4FC, "bCAPITAL LETTER HA WITH HOOKbSMALL LETTER HA WITH HOOK"),
   (0x4FE, "bCAPITAL LETTER HA WITH STROKEbSMALL LETTER HA WITH STROKE"),
   (0x500, "bCAPITAL LETTER KOMI DEbSMALL LETTER KOMI DEbCAPITAL LETTER KOMI DJE"),
   (0x503, "bSMALL LETTER KOMI DJEbCAPITAL LETTER KOMI ZJEbSMALL LETTER KOMI ZJE"),
   (0x506, "bCAPITAL LETTER KOMI DZJEbSMALL LETTER KOMI DZJEbCAPITAL LETTER KOMI LJE"),
   (0x509, "bSMALL LETTER KOMI LJEbCAPITAL LETTER KOMI NJEbSMALL LETTER KOMI NJE"),
   (0x50C, "bCAPITAL LETTER KOMI SJEbSMALL LETTER KOMI SJEbCAPITAL LETTER KOMI TJE"),
   (0x50F, "bSMALL LETTER KOMI TJEbCAPITAL LETTER REVERSED ZEbSMALL LETTER REVERSED ZE"),
   (0x512, "bCAPITAL LETTER EL WITH HOOKbSMALL LETTER EL WITH HOOKbCAPITAL LETTER LHA"),
   (0x515, "bSMALL LETTER LHAbCAPITAL LETTER RHAbSMALL LETTER RHAbCAPITAL LETTER YAE"),
   (0x519, "bSMALL LETTER YAEbCAPITAL LETTER QAbSMALL LETTER QAbCAPITAL LETTER WE"),
   (0x51D, "bSMALL LETTER WEbCAPITAL LETTER ALEUT KAbSMALL LETTER ALEUT KA"),
   (0x520, "bCAPITAL LETTER EL WITH MIDDLE HOOKbSMALL LETTER EL WITH MIDDLE HOOK"),
   (0x522, "bCAPITAL LETTER EN WITH MIDDLE HOOKbSMALL LETTER EN WITH MIDDLE HOOK"),
   (0x524, "bCAPITAL LETTER PE WITH DESCENDERbSMALL LETTER PE WITH DESCENDER"),
   (0x526, "bCAPITAL LETTER SHHA WITH DESCENDERbSMALL LETTER SHHA WITH DESCENDER"),
   (0x528, "bCAPITAL LETTER EN WITH LEFT HOOKbSMALL LETTER EN WITH LEFT HOOK"),
   (0x52A, "bCAPITAL LETTER DZZHEbSMALL LETTER DZZHEbCAPITAL LETTER DCHEbSMALL LETTER DCHE"),
   (0x52E, "bCAPITAL LETTER EL WITH DESCENDERbSMALL LETTER EL WITH DESCENDER"),
   (0x531, "aARMENIAN CAPITAL LETTER AYBdBENdGIMdDAdECHdZAdEHdETdTOdZHEdINIdLIWNdXEHdCAdKEN"),
   (0x540, "dHOdJAdGHADdCHEHdMENdYIdNOWdSHAdVOdCHAdPEHdJHEHdRAdSEHdVEWdTIWNdREHdCOdYIWN"),
   (0x553, "dPIWRdKEHdOHdFEH"),
   (0x559, "bMODIFIER LETTER LEFT HALF RINGbAPOSTROPHEbEMPHASIS MARKbEXCLAMATION MARKbCOMMA"),
   (0x55E, "bQUESTION MARKbABBREVIATION MARKbSMALL LETTER TURNED AYBdAYBdBENdGIMdDAdECHdZA"),
   (0x567, "dEHdETdTOdZHEdINIdLIWNdXEHdCAdKENdHOdJAdGHADdCHEHdMENdYIdNOWdSHAdVOdCHAdPEH"),
   (0x57B, "dJHEHdRAdSEHdVEWdTIWNdREHdCOdYIWNdPIWRdKEHdOHdFEHcLIGATURE ECH YIWN"),
   (0x588, "cLETTER YI WITH STROKEbFULL STOPbHYPHEN"),
   (0x58D, "aRIGHT-FACING ARMENIAN ETERNITY SIGNaLEFT-FACING ARMENIAN ETERNITY SIGN"),
   (0x58F, "aARMENIAN DRAM SIGN"),
   (0x591, "aHEBREW ACCENT ETNAHTAcSEGOLcSHALSHELETcZAQEF QATANdGADOLcTIPEHAcREVIAcZARQA"),
   (0x599, "cPASHTAcYETIVcTEVIRcGERESHdMUQDAMcGERSHAYIMcQARNEY PARAcTELISHA GEDOLAcPAZER"),
   (0x5A2, "cATNAH HAFUKHcMUNAHcMAHAPAKHcMERKHAdKEFULAcDARGAcQADMAcTELISHA QETANA"),
   (0x5AA, "cYERAH BEN YOMOcOLEcILUYcDEHIcZINORbMARK MASORA CIRCLEbPOINT SHEVAcHATAF SEGOL"),
   (0x5B2, "dPATAHdQAMATScHIRIQcTSEREcSEGOLcPATAHcQAMATScHOLAMdHASER FOR VAVcQUBUTS"),
   (0x5BC, "cDAGESH OR MAPIQcMETEGbPUNCTUATION MAQAFbPOINT RAFEbPUNCTUATION PASEQ"),
   (0x5C1, "bPOINT SHIN DOTcSIN DOTbPUNCTUATION SOF PASUQbMARK UPPER DOTcLOWER DOT"),
   (0x5C6, "bPUNCTUATION NUN HAFUKHAbPOINT QAMATS QATAN"),
   (0x5D0, "bLETTER ALEFcBETcGIMELcDALETcHEcVAVcZAYINcHETcTETcYODcFINAL KAFcKAFcLAMED"),
   (0x5DD, "cFINAL MEMcMEMcFINAL NUNcNUNcSAMEKHcAYINcFINAL PEcPEcFINAL TSADIcTSADIcQOFcRESH"),
   (0x5E9, "cSHINcTAV"),
   (0x5EF, "bYOD TRIANGLEbLIGATURE YIDDISH DOUBLE VAVdVAV YODdDOUBLE YODbPUNCTUATION GERESH"),
   (0x5F4, "cGERSHAYIM"),
   (0x600, "aARABIC NUMBER SIGNbSIGN SANAHbFOOTNOTE MARKERbSIGN SAFHAcSAMVAT"),
   (0x605, "bNUMBER MARK ABOVEaARABIC-INDIC CUBE ROOTbFOURTH ROOTaARABIC RAY"),
   (0x609, "aARABIC-INDIC PER MILLE SIGNcTEN THOUSAND SIGNaAFGHANI SIGNaARABIC COMMA"),
   (0x60D, "bDATE SEPARATORbPOETIC VERSE SIGNbSIGN MISRAcSALLALLAHOU ALAYHE WASSALLAM"),
   (0x611, "cALAYHE ASSALLAMcRAHMATULLAH ALAYHEcRADI ALLAHOU ANHUcTAKHALLUSbSMALL HIGH TAH"),
   (0x616, "dLIGATURE ALEF WITH LAM WITH YEHdZAINcFATHAcDAMMAcKASRAbSEMICOLONbLETTER MARK"),
   (0x61D, "bEND OF TEXT MARKbTRIPLE DOT PUNCTUATION MARKbQUESTION MARKbLETTER KASHMIRI YEH"),
   (0x621, "cHAMZAcALEF WITH MADDA ABOVEeHAMZA ABOVEcWAW WITH HAMZA ABOVE"),
   (0x625, "cALEF WITH HAMZA BELOWcYEH WITH HAMZA ABOVEcALEFcBEHcTEH MARBUTAcTEHcTHEHcJEEM"),
   (0x62D, "cHAHcKHAHcDALcTHALcREHcZAINcSEENcSHEENcSADcDADcTAHcZAHcAINcGHAIN"),
   (0x63B, "cKEHEH WITH TWO DOTS ABOVEeTHREE DOTS BELOWcFARSI YEH WITH INVERTED V"),
   (0x63E, "fTWO DOTS ABOVEfTHREE DOTS ABOVEbTATWEELbLETTER FEHcQAFcKAFcLAMcMEEMcNOONcHEH"),
   (0x648, "cWAWcALEF MAKSURAcYEHbFATHATANbDAMMATANbKASRATANbFATHAbDAMMAbKASRAbSHADDAbSUKUN"),
   (0x653, "bMADDAH ABOVEbHAMZA ABOVEcBELOWbSUBSCRIPT ALEFbINVERTED DAMMAbMARK NOON GHUNNA"),
   (0x659, "bZWARAKAYbVOWEL SIGN SMALL V ABOVEdINVERTED SMALL V ABOVEdDOT BELOW"),
   (0x65D, "bREVERSED DAMMAbFATHA WITH TWO DOTSbWAVY HAMZA BELOWaARABIC-INDIC DIGIT ZERO"),
   (0x661, "cONEcTWOcTHREEcFOURcFIVEcSIXcSEVENcEIGHTcNINEaARABIC PERCENT SIGN"),
   (0x66B, "bDECIMAL SEPARATORbTHOUSANDS SEPARATORbFIVE POINTED STARbLETTER DOTLESS BEHdQAF"),
   (0x670, "cSUPERSCRIPT ALEFcALEF WASLAdWITH WAVY HAMZA ABOVEgBELOWcHIGH HAMZAeALEFeWAW"),
   (0x677, "cU WITH HAMZA ABOVEcHIGH HAMZA YEHcTTEHcTTEHEHcBEEHcTEH WITH RING"),
   (0x67D, "eTHREE DOTS ABOVE DOWNWARDScPEHcTEHEHcBEHEHcHAH WITH HAMZA ABOVE"),
   (0x682, "eTWO DOTS VERTICAL ABOVEcNYEHcDYEHcHAH WITH THREE DOTS ABOVEcTCHEHcTCHEHEHcDDAL"),
   (0x689, "cDAL WITH RINGeDOT BELOWgAND SMALL TAHcDAHALcDDAHALcDUL"),
   (0x68F, "cDAL WITH THREE DOTS ABOVE DOWNWARDSeFOUR DOTS ABOVEcRREHcREH WITH SMALL VeRING"),
   (0x694, "eDOT BELOWeSMALL V BELOWeDOT BELOW AND DOT ABOVEeTWO DOTS ABOVEcJEH"),
   (0x699, "cREH WITH FOUR DOTS ABOVEcSEEN WITH DOT BELOW AND DOT ABOVEeTHREE DOTS BELOW"),
   (0x69C, "hAND THREE DOTS ABOVEcSAD WITH TWO DOTS BELOWeTHREE DOTS ABOVE"),
   (0x69F, "cTAH WITH THREE DOTS ABOVEcAIN WITH THREE DOTS ABOVEcDOTLESS FEH"),
   (0x6A2, "cFEH WITH DOT MOVED BELOWfBELOWcVEHcFEH WITH THREE DOTS BELOWcPEHEH"),
   (0x6A7, "cQAF WITH DOT ABOVEeTHREE DOTS ABOVEcKEHEHcSWASH KAFcKAF WITH RINGeDOT ABOVEcNG"),
   (0x6AE, "cKAF WITH THREE DOTS BELOWcGAFdWITH RINGcNGOEHcGAF WITH TWO DOTS BELOWcGUEH"),
   (0x6B4, "cGAF WITH THREE DOTS ABOVEcLAM WITH SMALL VeDOT ABOVEeTHREE DOTS ABOVEgBELOW"),
   (0x6B9, "cNOON WITH DOT BELOWdGHUNNAcRNOONcNOON WITH RINGeTHREE DOTS ABOVE"),
   (0x6BE, "cHEH DOACHASHMEEcTCHEH WITH DOT ABOVEcHEH WITH YEH ABOVEdGOALeWITH HAMZA ABOVE"),
   (0x6C3, "cTEH MARBUTA GOALcWAW WITH RINGcKIRGHIZ OEcOEcUcYUcKIRGHIZ YU"),
   (0x6CA, "cWAW WITH TWO DOTS ABOVEcVEcFARSI YEHcYEH WITH TAILeSMALL VcWAW WITH DOT ABOVE"),
   (0x6D0, "cEcYEH WITH THREE DOTS BELOWdBARREEeWITH HAMZA ABOVEbFULL STOPbLETTER AE"),
   (0x6D6, "bSMALL HIGH LIGATURE SAD WITH LAM WITH ALEF MAKSURA"),
   (0x6D7, "eQAF WITH LAM WITH ALEF MAKSURAdMEEM INITIAL FORMdLAM ALEFdJEEMdTHREE DOTSdSEEN"),
   (0x6DD, "bEND OF AYAHbSTART OF RUB EL HIZBbSMALL HIGH ROUNDED ZERO"),
   (0x6E0, "dUPRIGHT RECTANGULAR ZEROdDOTLESS HEAD OF KHAHdMEEM ISOLATED FORMcLOW SEEN"),
   (0x6E4, "cHIGH MADDAcWAWcYEHcHIGH YEHdNOONbPLACE OF SAJDAHbEMPTY CENTRE LOW STOP"),
   (0x6EB, "dHIGH STOPbROUNDED HIGH STOP WITH FILLED CENTREbSMALL LOW MEEM"),
   (0x6EE, "bLETTER DAL WITH INVERTED VcREH WITH INVERTED V"),
   (0x6F0, "aEXTENDED ARABIC-INDIC DIGIT ZEROdONEdTWOdTHREEdFOURdFIVEdSIXdSEVENdEIGHTdNINE"),
   (0x6FA, "aARABIC LETTER SHEEN WITH DOT BELOWcDAD WITH DOT BELOWcGHAIN WITH DOT BELOW"),
   (0x6FD, "bSIGN SINDHI AMPERSANDdPOSTPOSITION MENbLETTER HEH WITH INVERTED V"),
   (0x700, "aSYRIAC END OF PARAGRAPHbSUPRALINEAR FULL STOPbSUBLINEAR FULL STOP"),
   (0x703, "bSUPRALINEAR COLONbSUBLINEAR COLONbHORIZONTAL COLONbCOLON SKEWED LEFTdRIGHT"),
   (0x708, "bSUPRALINEAR COLON SKEWED LEFTbSUBLINEAR COLON SKEWED RIGHTbCONTRACTION"),
   (0x70B, "bHARKLEAN OBELUScMETOBELUScASTERISCUS"),
   (0x70F, "bABBREVIATION MARKbLETTER ALAPHcSUPERSCRIPT ALAPHcBETHcGAMALdGARSHUNIcDALATH"),
   (0x716, "cDOTLESS DALATH RISHcHEcWAWcZAINcHETHcTETHdGARSHUNIcYUDHdHEcKAPHcLAMADHcMIMcNUN"),
   (0x723, "cSEMKATHcFINAL SEMKATHcEcPEcREVERSED PEcSADHEcQAPHcRISHcSHINcTAWcPERSIAN BHETH"),
   (0x72E, "dGHAMALdDHALATHbPTHAHA ABOVEcBELOWcDOTTEDbZQAPHA ABOVEcBELOWcDOTTEDbRBASA ABOVE"),
   (0x737, "cBELOWbDOTTED ZLAMA HORIZONTALdANGULARbHBASA ABOVEcBELOWbHBASA-ESASA DOTTED"),
   (0x73D, "bESASA ABOVEcBELOWbRWAHAbFEMININE DOTbQUSHSHAYAbRUKKAKHA"),
   (0x743, "bTWO VERTICAL DOTS ABOVEeBELOWbTHREE DOTS ABOVEdBELOWbOBLIQUE LINE ABOVEdBELOW"),
   (0x749, "bMUSICbBARREKH"), (0x74D, "bLETTER SOGDIAN ZHAINdKHAPHdFE"),
   (0x750, "aARABIC LETTER BEH WITH THREE DOTS HORIZONTALLY BELOW"),
   (0x751, "eDOT BELOW AND THREE DOTS ABOVEeTHREE DOTS POINTING UPWARDS BELOW"),
   (0x753, "jAND TWO DOTS ABOVEeTWO DOTS BELOW AND DOT ABOVEeINVERTED SMALL V BELOWeSMALL V"),
   (0x757, "cHAH WITH TWO DOTS ABOVEeTHREE DOTS POINTING UPWARDS BELOW"),
   (0x759, "cDAL WITH TWO DOTS VERTICALLY BELOW AND SMALL TAHeINVERTED SMALL V BELOW"),
   (0x75B, "cREH WITH STROKEcSEEN WITH FOUR DOTS ABOVEcAIN WITH TWO DOTS ABOVE"),
   (0x75E, "eTHREE DOTS POINTING DOWNWARDS ABOVEeTWO DOTS VERTICALLY ABOVE"),
   (0x760, "cFEH WITH TWO DOTS BELOWeTHREE DOTS POINTING UPWARDS BELOWcKEHEH WITH DOT ABOVE"),
   (0x763, "eTHREE DOTS ABOVEgPOINTING UPWARDS BELOWcMEEM WITH DOT ABOVEfBELOW"),
   (0x767, "cNOON WITH TWO DOTS BELOWeSMALL TAHfVcLAM WITH BAR"),
   (0x76B, "cREH WITH TWO DOTS VERTICALLY ABOVEeHAMZA ABOVE"),
   (0x76D, "cSEEN WITH TWO DOTS VERTICALLY ABOVEcHAH WITH SMALL ARABIC LETTER TAH BELOW"),
   (0x76F, "iAND TWO DOTScSEEN WITH SMALL ARABIC LETTER TAH AND TWO DOTS"),
   (0x771, "cREH WITH SMALL ARABIC LETTER TAH AND TWO DOTS"),
   (0x772, "cHAH WITH SMALL ARABIC LETTER TAH ABOVE"),
   (0x773, "cALEF WITH EXTENDED ARABIC-INDIC DIGIT TWO ABOVEhTHREE ABOVE"),
   (0x775, "cFARSI YEH WITH EXTENDED ARABIC-INDIC DIGIT TWO ABOVEiTHREE ABOVEiFOUR BELOW"),
   (0x778, "cWAW WITH EXTENDED ARABIC-INDIC DIGIT TWO ABOVEhTHREE ABOVE"),
   (0x77A, "cYEH BARREE WITH EXTENDED ARABIC-INDIC DIGIT TWO ABOVEiTHREE ABOVE"),
   (0x77C, "cHAH WITH EXTENDED ARABIC-INDIC DIGIT FOUR BELOW"),
   (0x77D, "cSEEN WITH EXTENDED ARABIC-INDIC DIGIT FOUR ABOVEeINVERTED V"),
   (0x77F, "cKAF WITH TWO DOTS ABOVEaTHAANA LETTER HAAcSHAVIYANIcNOONUcRAAcBAAcLHAVIYANI"),
   (0x786, "cKAAFUcALIFUcVAAVUcMEEMUcFAAFUcDHAALUcTHAAcLAAMUcGAAFUcGNAVIYANIcSEENUcDAVIYANI"),
   (0x792, "cZAVIYANIcTAVIYANIcYAAcPAVIYANIcJAVIYANIcCHAVIYANIcTTAAcHHAAcKHAAcTHAALUcZAA"),
   (0x79D, "cSHEENUcSAADHUcDAADHUcTOcZOcAINUcGHAINUcQAAFUcWAAVUbABAFILIbAABAAFILIbIBIFILI"),
   (0x7A9, "bEEBEEFILIbUBUFILIbOOBOOFILIbEBEFILIbEYBEYFILIbOBOFILIbOABOAFILIbSUKUN"),
   (0x7B1, "bLETTER NAA"),
   (0x7C0, "aNKO DIGIT ZEROcONEcTWOcTHREEcFOURcFIVEcSIXcSEVENcEIGHTcNINEbLETTER AcEEcIcEcU"),
   (0x7CF, "cOOcOcDAGBASINNAcNcBAcPAcTAcJAcCHAcDAcRAcRRAcSAcGBAcFAcKAcLAcNA WOLOSOcMAcNYA"),
   (0x7E3, "cNAcHAcWAcYAcNYA WOLOSOcJONA JAdCHAdRAbCOMBINING SHORT HIGH TONEdLOW TONE"),
   (0x7ED, "dRISING TONEcLONG DESCENDING TONEdHIGH TONEdLOW TONEdRISING TONE"),
   (0x7F2, "cNASALIZATION MARKcDOUBLE DOT ABOVEbHIGH TONE APOSTROPHEbLOW TONE APOSTROPHE"),
   (0x7F6, "bSYMBOL OO DENNENcGBAKURUNENbCOMMAbEXCLAMATION MARKbLAJANYALAN"),
   (0x7FD, "bDANTAYALANbDOROME SIGNbTAMAN SIGN")]

end Scriptlet.Text.CharacterNames
