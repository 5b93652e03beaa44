/-
# Names of characters from U+0800 to U+0FDA

The scripts of India and Tibet, with Samaritan and Thai.
-/

namespace Scriptlet.Text.CharacterNames

def indic : List (Nat × String) :=
  [(0x800, "aSAMARITAN LETTER ALAFcBITcGAMANcDALATcIYcBAAcZENcITcTITcYUTcKAAFcLABATcMIMcNUN"),
   (0x80E, "cSINGAATcINcFIcTSAADIYcQUFcRISHcSHANcTAAFbMARK INcIN-ALAFcOCCLUSIONcDAGESH"),
   (0x81A, "bMODIFIER LETTER EPENTHETIC YUTbMARK EPENTHETIC YUTbVOWEL SIGN LONG EdE"),
   (0x81E, "dOVERLONG AAdLONG AAdAAdOVERLONG AdLONG AdAbMODIFIER LETTER SHORT A"),
   (0x825, "bVOWEL SIGN SHORT AdLONG UdUbMODIFIER LETTER IbVOWEL SIGN LONG IdIdOdSUKUN"),
   (0x82D, "bMARK NEQUDAA"),
   (0x830, "bPUNCTUATION NEQUDAAcAFSAAQcANGEDcBAUcATMAAUcSHIYYAALAAbABBREVIATION MARK"),
   (0x837, "bPUNCTUATION MELODIC QITSAcZIQAAcQITSAcZAEFcTURUcARKAANUcSOF MASHFAATcANNAAU"),
   (0x840, "aMANDAIC LETTER HALQAcABcAGcADcAHcUSHENNAcAZcITcATTcAKSAcAKcALcAMcANcAScINcAP"),
   (0x851, "cASZcAQcARcASHcATcDUSHENNAcKADcAINbAFFRICATION MARKbVOCALIZATION MARK"),
   (0x85B, "bGEMINATION MARK"), (0x85E, "bPUNCTUATION"),
   (0x860, "aSYRIAC LETTER MALAYALAM NGAdJAdNYAdTTAdNNAdNNNAdBHAdRAdLLAdLLLAdSSA"),
   (0x870, "aARABIC LETTER ALEF WITH ATTACHED FATHAfTOP RIGHT FATHAeRIGHT MIDDLE STROKE"),
   (0x873, "eLEFT MIDDLE STROKEeATTACHED KASRAfBOTTOM RIGHT KASRAfROUND DOT ABOVE"),
   (0x877, "fRIGHT ROUND DOTfLEFT ROUND DOTfROUND DOT BELOWeDOT ABOVE"),
   (0x87B, "eATTACHED TOP RIGHT FATHA AND DOT ABOVEeRIGHT MIDDLE STROKE AND DOT ABOVE"),
   (0x87D, "eATTACHED BOTTOM RIGHT KASRA AND DOT ABOVEfTOP RIGHT FATHA AND LEFT RING"),
   (0x87F, "eRIGHT MIDDLE STROKE AND LEFT RINGeATTACHED BOTTOM RIGHT KASRA AND LEFT RING"),
   (0x881, "fRIGHT HAMZAfLEFT HAMZAbTATWEEL WITH OVERSTRUCK HAMZAeWAWdTWO DOTS BELOW"),
   (0x886, "bLETTER THIN YEHbBASELINE ROUND DOTbRAISED ROUND DOT"),
   (0x889, "bLETTER NOON WITH INVERTED SMALL VcHAH WITH INVERTED SMALL V BELOW"),
   (0x88B, "cTAH WITH DOT BELOWeTHREE DOTS BELOWcKEHEH WITH TWO DOTS VERTICALLY BELOW"),
   (0x88E, "bVERTICAL TAIL"), (0x890, "bPOUND MARK ABOVEbPIASTRE MARK ABOVE"),
   (0x898, "bSMALL HIGH WORD AL-JUZcLOW WORD ISHMAAMeIMAALAeTASHEELbMADDA WAAJIB"),
   (0x89D, "bSUPERSCRIPT ALEF MOKHASSASbDOUBLED MADDAbHALF MADDA OVER MADDA"),
   (0x8A0, "bLETTER BEH WITH SMALL V BELOWeHAMZA ABOVEcJEEM WITH TWO DOTS ABOVE"),
   (0x8A3, "cTAH WITH TWO DOTS ABOVEcFEH WITH DOT BELOW AND THREE DOTS ABOVE"),
   (0x8A5, "cQAF WITH DOT BELOWcLAM WITH DOUBLE BARcMEEM WITH THREE DOTS ABOVE"),
   (0x8A8, "cYEH WITH TWO DOTS BELOW AND HAMZA ABOVEiDOT ABOVEcREH WITH LOOP"),
   (0x8AB, "cWAW WITH DOT WITHINcROHINGYA YEHcLOW ALEFcDAL WITH THREE DOTS BELOW"),
   (0x8AF, "cSAD WITH THREE DOTS BELOWcGAF WITH INVERTED STROKEcSTRAIGHT WAW"),
   (0x8B2, "cZAIN WITH INVERTED V ABOVEcAIN WITH THREE DOTS BELOWcKAF WITH DOT BELOW"),
   (0x8B5, "cQAF WITH DOT BELOW AND NO DOTS ABOVEcBEH WITH SMALL MEEM ABOVE"),
   (0x8B7, "cPEH WITH SMALL MEEM ABOVEcTEH WITH SMALL TEH ABOVEcREH WITH SMALL NOON ABOVE"),
   (0x8BA, "cYEH WITH TWO DOTS BELOW AND SMALL NOON ABOVEcAFRICAN FEHdQAFdNOON"),
   (0x8BE, "cPEH WITH SMALL VcTEH WITH SMALL VcTTEH WITH SMALL VcTCHEH WITH SMALL V"),
   (0x8C2, "cKEHEH WITH SMALL VcGHAIN WITH THREE DOTS ABOVE"),
   (0x8C4, "cAFRICAN QAF WITH THREE DOTS ABOVEcJEEM WITH THREE DOTS ABOVEgBELOW"),
   (0x8C7, "cLAM WITH SMALL ARABIC LETTER TAH ABOVEcGRAFbSMALL FARSI YEHcHIGH FARSI YEH"),
   (0x8CB, "dYEH BARREE WITH TWO DOTS BELOWdWORD SAHdZAHbLARGE ROUND DOT ABOVEeBELOW"),
   (0x8D0, "bSUKUN BELOWbLARGE CIRCLE BELOWcROUND DOT INSIDE CIRCLE BELOWbSMALL LOW WAW"),
   (0x8D4, "cHIGH WORD AR-RUBdSADdAINdQAFdNOON WITH KASRAcLOW NOON WITH KASRA"),
   (0x8DA, "cHIGH WORD ATH-THALATHAeAS-SAJDAeAN-NISFeSAKTAeQIFeWAQFAdFOOTNOTE MARKER"),
   (0x8E1, "dSIGN SAFHAbDISPUTED END OF AYAHbTURNED DAMMA BELOWbCURLY FATHAcDAMMAcKASRA"),
   (0x8E7, "cFATHATANcDAMMATANcKASRATANbTONE ONE DOT ABOVEcTWO DOTS ABOVEcLOOP ABOVE"),
   (0x8ED, "cONE DOT BELOWcTWO DOTS BELOWcLOOP BELOWbOPEN FATHATANcDAMMATANcKASRATAN"),
   (0x8F3, "bSMALL HIGH WAWbFATHA WITH RINGdDOT ABOVEbKASRA WITH DOT BELOW"),
   (0x8F7, "bLEFT ARROWHEAD ABOVEbRIGHT ARROWHEAD ABOVEbLEFT ARROWHEAD BELOW"),
   (0x8FA, "bRIGHT ARROWHEAD BELOWbDOUBLE RIGHT ARROWHEAD ABOVEfWITH DOT"),
   (0x8FD, "bRIGHT ARROWHEAD ABOVE WITH DOTbDAMMA WITH DOTbMARK SIDEWAYS NOON GHUNNA"),
   (0x900, "aDEVANAGARI SIGN INVERTED CANDRABINDUcCANDRABINDUcANUSVARAcVISARGA"),
   (0x904, "bLETTER SHORT AcAcAAcIcIIcUcUUcVOCALIC RdLcCANDRA EcSHORT EcEcAIcCANDRA O"),
   (0x912, "cSHORT OcOcAUcKAcKHAcGAcGHAcNGAcCAcCHAcJAcJHAcNYAcTTAcTTHAcDDAcDDHAcNNAcTAcTHA"),
   (0x926, "cDAcDHAcNAcNNNAcPAcPHAcBAcBHAcMAcYAcRAcRRAcLAcLLAcLLLAcVAcSHAcSSAcSAcHA"),
   (0x93A, "bVOWEL SIGN OEdOOEbSIGN NUKTAcAVAGRAHAbVOWEL SIGN AAdIdIIdUdUUdVOCALIC ReRR"),
   (0x945, "dCANDRA EdSHORT EdEdAIdCANDRA OdSHORT OdOdAUbSIGN VIRAMA"),
   (0x94E, "bVOWEL SIGN PRISHTHAMATRA EdAWbOMbSTRESS SIGN UDATTAdANUDATTAbGRAVE ACCENT"),
   (0x954, "bACUTE ACCENTbVOWEL SIGN CANDRA LONG EdUEdUUEbLETTER QAcKHHAcGHHAcZAcDDDHAcRHA"),
   (0x95E, "cFAcYYAcVOCALIC RRdLLbVOWEL SIGN VOCALIC LeLLbDANDAbDOUBLE DANDAbDIGIT ZEROcONE"),
   (0x968, "cTWOcTHREEcFOURcFIVEcSIXcSEVENcEIGHTcNINEbABBREVIATION SIGN"),
   (0x971, "bSIGN HIGH SPACING DOTbLETTER CANDRA AcOEcOOEcAWcUEcUUEcMARWARI DDAcZHA"),
   (0x97A, "cHEAVY YAcGGAcJJAcGLOTTAL STOPcDDDAcBBAaBENGALI ANJIbSIGN CANDRABINDUcANUSVARA"),
   (0x983, "cVISARGA"), (0x985, "bLETTER AcAAcIcIIcUcUUcVOCALIC RdL"), (0x98F, "cEcAI"),
   (0x993, "cOcAUcKAcKHAcGAcGHAcNGAcCAcCHAcJAcJHAcNYAcTTAcTTHAcDDAcDDHAcNNAcTAcTHAcDAcDHA"),
   (0x9A8, "cNA"), (0x9AA, "cPAcPHAcBAcBHAcMAcYAcRA"), (0x9B2, "cLA"), (0x9B6, "cSHAcSSAcSAcHA"),
   (0x9BC, "bSIGN NUKTAcAVAGRAHAbVOWEL SIGN AAdIdIIdUdUUdVOCALIC ReRR"), (0x9C7, "dEdAI"),
   (0x9CB, "dOdAUbSIGN VIRAMAbLETTER KHANDA TA"), (0x9D7, "bAU LENGTH MARK"),
   (0x9DC, "bLETTER RRAcRHA"), (0x9DF, "cYYAcVOCALIC RRdLLbVOWEL SIGN VOCALIC LeLL"),
   (0x9E6, "bDIGIT ZEROcONEcTWOcTHREEcFOURcFIVEcSIXcSEVENcEIGHTcNINE"),
   (0x9F0, "bLETTER RA WITH MIDDLE DIAGONALeLOWER DIAGONALbRUPEE MARKcSIGN"),
   (0x9F4, "bCURRENCY NUMERATOR ONEdTWOdTHREEdFOURdONE LESS THAN THE DENOMINATOR"),
   (0x9F9, "cDENOMINATOR SIXTEENbISSHARbGANDA MARKbLETTER VEDIC ANUSVARAbABBREVIATION SIGN"),
   (0x9FE, "bSANDHI MARK"), (0xA01, "aGURMUKHI SIGN ADAK BINDIcBINDIcVISARGA"),
   (0xA05, "bLETTER AcAAcIcIIcUcUU"), (0xA0F, "cEEcAI"),
   (0xA13, "cOOcAUcKAcKHAcGAcGHAcNGAcCAcCHAcJAcJHAcNYAcTTAcTTHAcDDAcDDHAcNNAcTAcTHAcDAcDHA"),
   (0xA28, "cNA"), (0xA2A, "cPAcPHAcBAcBHAcMAcYAcRA"), (0xA32, "cLAcLLA"), (0xA35, "cVAcSHA"),
   (0xA38, "cSAcHA"), (0xA3C, "bSIGN NUKTA"), (0xA3E, "bVOWEL SIGN AAdIdIIdUdUU"),
   (0xA47, "dEEdAI"), (0xA4B, "dOOdAUbSIGN VIRAMA"), (0xA51, "cUDAAT"),
   (0xA59, "bLETTER KHHAcGHHAcZAcRRA"), (0xA5E, "cFA"),
   (0xA66, "bDIGIT ZEROcONEcTWOcTHREEcFOURcFIVEcSIXcSEVENcEIGHTcNINEbTIPPIbADDAKbIRIbURA"),
   (0xA74, "bEK ONKARbSIGN YAKASHbABBREVIATION SIGN"),
   (0xA81, "aGUJARATI SIGN CANDRABINDUcANUSVARAcVISARGA"),
   (0xA85, "bLETTER AcAAcIcIIcUcUUcVOCALIC RdLbVOWEL CANDRA E"),
   (0xA8F, "bLETTER EcAIbVOWEL CANDRA O"),
   (0xA93, "bLETTER OcAUcKAcKHAcGAcGHAcNGAcCAcCHAcJAcJHAcNYAcTTAcTTHAcDDAcDDHAcNNAcTAcTHA"),
   (0xAA6, "cDAcDHAcNA"), (0xAAA, "cPAcPHAcBAcBHAcMAcYAcRA"), (0xAB2, "cLAcLLA"),
   (0xAB5, "cVAcSHAcSSAcSAcHA"),
   (0xABC, "bSIGN NUKTAcAVAGRAHAbVOWEL SIGN AAdIdIIdUdUUdVOCALIC ReRRdCANDRA E"),
   (0xAC7, "dEdAIdCANDRA O"), (0xACB, "dOdAUbSIGN VIRAMA"), (0xAD0, "bOM"),
   (0xAE0, "bLETTER VOCALIC RRdLLbVOWEL SIGN VOCALIC LeLL"),
   (0xAE6, "bDIGIT ZEROcONEcTWOcTHREEcFOURcFIVEcSIXcSEVENcEIGHTcNINEbABBREVIATION SIGN"),
   (0xAF1, "bRUPEE SIGN"),
   (0xAF9, "bLETTER ZHAbSIGN SUKUNcSHADDAcMADDAHcTHREE-DOT NUKTA ABOVEcCIRCLE NUKTA ABOVE"),
   (0xAFF, "cTWO-CIRCLE NUKTA ABOVE"), (0xB01, "aORIYA SIGN CANDRABINDUcANUSVARAcVISARGA"),
   (0xB05, "bLETTER AcAAcIcIIcUcUUcVOCALIC RdL"), (0xB0F, "cEcAI"),
   (0xB13, "cOcAUcKAcKHAcGAcGHAcNGAcCAcCHAcJAcJHAcNYAcTTAcTTHAcDDAcDDHAcNNAcTAcTHAcDAcDHA"),
   (0xB28, "cNA"), (0xB2A, "cPAcPHAcBAcBHAcMAcYAcRA"), (0xB32, "cLAcLLA"),
   (0xB35, "cVAcSHAcSSAcSAcHA"),
   (0xB3C, "bSIGN NUKTAcAVAGRAHAbVOWEL SIGN AAdIdIIdUdUUdVOCALIC ReRR"), (0xB47, "dEdAI"),
   (0xB4B, "dOdAUbSIGN VIRAMA"), (0xB55, "cOVERLINEbAI LENGTH MARKbAU LENGTH MARK"),
   (0xB5C, "bLETTER RRAcRHA"), (0xB5F, "cYYAcVOCALIC RRdLLbVOWEL SIGN VOCALIC LeLL"),
   (0xB66, "bDIGIT ZEROcONEcTWOcTHREEcFOURcFIVEcSIXcSEVENcEIGHTcNINEbISSHARbLETTER WA"),
   (0xB72, "bFRACTION ONE QUARTERdHALFcTHREE QUARTERScONE SIXTEENTHdEIGHTHcTHREE SIXTEENTHS"),
   (0xB82, "aTAMIL SIGN ANUSVARAcVISARGA"), (0xB85, "bLETTER AcAAcIcIIcUcUU"), (0xB8E, "cEcEEcAI"),
   (0xB92, "cOcOOcAUcKA"), (0xB99, "cNGAcCA"), (0xB9C, "cJA"), (0xB9E, "cNYAcTTA"),
   (0xBA3, "cNNAcTA"), (0xBA8, "cNAcNNNAcPA"),
   (0xBAE, "cMAcYAcRAcRRAcLAcLLAcLLLAcVAcSHAcSSAcSAcHA"), (0xBBE, "bVOWEL SIGN AAdIdIIdUdUU"),
   (0xBC6, "dEdEEdAI"), (0xBCA, "dOdOOdAUbSIGN VIRAMA"), (0xBD0, "bOM"),
   (0xBD7, "bAU LENGTH MARK"),
   (0xBE6, "bDIGIT ZEROcONEcTWOcTHREEcFOURcFIVEcSIXcSEVENcEIGHTcNINEbNUMBER TENcONE HUNDRED"),
   (0xBF2, "dTHOUSANDbDAY SIGNbMONTH SIGNbYEAR SIGNbDEBIT SIGNbCREDIT SIGNbAS ABOVE SIGN"),
   (0xBF9, "bRUPEE SIGNbNUMBER SIGN"),
   (0xC00, "aTELUGU SIGN COMBINING CANDRABINDU ABOVEcCANDRABINDUcANUSVARAcVISARGA"),
   (0xC04, "cCOMBINING ANUSVARA ABOVEbLETTER AcAAcIcIIcUcUUcVOCALIC RdL"), (0xC0E, "cEcEEcAI"),
   (0xC12, "cOcOOcAUcKAcKHAcGAcGHAcNGAcCAcCHAcJAcJHAcNYAcTTAcTTHAcDDAcDDHAcNNAcTAcTHAcDA"),
   (0xC27, "cDHAcNA"), (0xC2A, "cPAcPHAcBAcBHAcMAcYAcRAcRRAcLAcLLAcLLLAcVAcSHAcSSAcSAcHA"),
   (0xC3C, "bSIGN NUKTAcAVAGRAHAbVOWEL SIGN AAdIdIIdUdUUdVOCALIC ReRR"), (0xC46, "dEdEEdAI"),
   (0xC4A, "dOdOOdAUbSIGN VIRAMA"), (0xC55, "bLENGTH MARKbAI LENGTH MARK"),
   (0xC58, "bLETTER TSAcDZAcRRRA"), (0xC5D, "cNAKAARA POLLU"),
   (0xC60, "cVOCALIC RRdLLbVOWEL SIGN VOCALIC LeLL"),
   (0xC66, "bDIGIT ZEROcONEcTWOcTHREEcFOURcFIVEcSIXcSEVENcEIGHTcNINE"),
   (0xC77, "bSIGN SIDDHAMbFRACTION DIGIT ZERO FOR ODD POWERS OF FOUR"),
   (0xC79, "dONE FOR ODD POWERS OF FOURdTWO FOR ODD POWERS OF FOUR"),
   (0xC7B, "dTHREE FOR ODD POWERS OF FOURdONE FOR EVEN POWERS OF FOUR"),
   (0xC7D, "dTWO FOR EVEN POWERS OF FOURdTHREE FOR EVEN POWERS OF FOURbSIGN TUUMU"),
   (0xC80, "aKANNADA SIGN SPACING CANDRABINDUcCANDRABINDUcANUSVARAcVISARGAcSIDDHAMbLETTER A"),
   (0xC86, "cAAcIcIIcUcUUcVOCALIC RdL"), (0xC8E, "cEcEEcAI"),
   (0xC92, "cOcOOcAUcKAcKHAcGAcGHAcNGAcCAcCHAcJAcJHAcNYAcTTAcTTHAcDDAcDDHAcNNAcTAcTHAcDA"),
   (0xCA7, "cDHAcNA"), (0xCAA, "cPAcPHAcBAcBHAcMAcYAcRAcRRAcLAcLLA"), (0xCB5, "cVAcSHAcSSAcSAcHA"),
   (0xCBC, "bSIGN NUKTAcAVAGRAHAbVOWEL SIGN AAdIdIIdUdUUdVOCALIC ReRR"), (0xCC6, "dEdEEdAI"),
   (0xCCA, "dOdOOdAUbSIGN VIRAMA"), (0xCD5, "bLENGTH MARKbAI LENGTH MARK"),
   (0xCDD, "bLETTER NAKAARA POLLUcFA"), (0xCE0, "cVOCALIC RRdLLbVOWEL SIGN VOCALIC LeLL"),
   (0xCE6, "bDIGIT ZEROcONEcTWOcTHREEcFOURcFIVEcSIXcSEVENcEIGHTcNINE"),
   (0xCF1, "bSIGN JIHVAMULIYAcUPADHMANIYA"),
   (0xD00, "aMALAYALAM SIGN COMBINING ANUSVARA ABOVEcCANDRABINDUcANUSVARAcVISARGA"),
   (0xD04, "bLETTER VEDIC ANUSVARAcAcAAcIcIIcUcUUcVOCALIC RdL"), (0xD0E, "cEcEEcAI"),
   (0xD12, "cOcOOcAUcKAcKHAcGAcGHAcNGAcCAcCHAcJAcJHAcNYAcTTAcTTHAcDDAcDDHAcNNAcTAcTHAcDA"),
   (0xD27, "cDHAcNAcNNNAcPAcPHAcBAcBHAcMAcYAcRAcRRAcLAcLLAcLLLAcVAcSHAcSSAcSAcHAcTTTA"),
   (0xD3B, "bSIGN VERTICAL BAR VIRAMAcCIRCULAR VIRAMAcAVAGRAHAbVOWEL SIGN AAdIdIIdUdUU"),
   (0xD43, "dVOCALIC ReRR"), (0xD46, "dEdEEdAI"),
   (0xD4A, "dOdOOdAUbSIGN VIRAMAbLETTER DOT REPHbSIGN PARA"),
   (0xD54, "bLETTER CHILLU MdYdLLLbAU LENGTH MARKbFRACTION ONE ONE-HUNDRED-AND-SIXTIETH"),
   (0xD59, "dFORTIETHcTHREE EIGHTIETHScONE TWENTIETHdTENTHcTHREE TWENTIETHScONE FIFTH"),
   (0xD5F, "bLETTER ARCHAIC IIcVOCALIC RRdLLbVOWEL SIGN VOCALIC LeLL"),
   (0xD66, "bDIGIT ZEROcONEcTWOcTHREEcFOURcFIVEcSIXcSEVENcEIGHTcNINEbNUMBER TENcONE HUNDRED"),
   (0xD72, "dTHOUSANDbFRACTION ONE QUARTERdHALFcTHREE QUARTERScONE SIXTEENTHdEIGHTH"),
   (0xD78, "cTHREE SIXTEENTHSbDATE MARKbLETTER CHILLU NNdNdRRdLdLLdK"),
   (0xD81, "aSINHALA SIGN CANDRABINDUcANUSVARAYAcVISARGAYA"),
   (0xD85, "bLETTER AYANNAcAAYANNAcAEYANNAcAEEYANNAcIYANNAcIIYANNAcUYANNAcUUYANNAcIRUYANNA"),
   (0xD8E, "cIRUUYANNAcILUYANNAcILUUYANNAcEYANNAcEEYANNAcAIYANNAcOYANNAcOOYANNAcAUYANNA"),
   (0xD9A, "cALPAPRAANA KAYANNAcMAHAAPRAANA KAYANNAcALPAPRAANA GAYANNAcMAHAAPRAANA GAYANNA"),
   (0xD9E, "cKANTAJA NAASIKYAYAcSANYAKA GAYANNAcALPAPRAANA CAYANNAcMAHAAPRAANA CAYANNA"),
   (0xDA2, "cALPAPRAANA JAYANNAcMAHAAPRAANA JAYANNAcTAALUJA NAASIKYAYAdSANYOOGA NAAKSIKYAYA"),
   (0xDA6, "cSANYAKA JAYANNAcALPAPRAANA TTAYANNAcMAHAAPRAANA TTAYANNAcALPAPRAANA DDAYANNA"),
   (0xDAA, "cMAHAAPRAANA DDAYANNAcMUURDHAJA NAYANNAcSANYAKA DDAYANNAcALPAPRAANA TAYANNA"),
   (0xDAE, "cMAHAAPRAANA TAYANNAcALPAPRAANA DAYANNAcMAHAAPRAANA DAYANNAcDANTAJA NAYANNA"),
   (0xDB3, "cSANYAKA DAYANNAcALPAPRAANA PAYANNAcMAHAAPRAANA PAYANNAcALPAPRAANA BAYANNA"),
   (0xDB7, "cMAHAAPRAANA BAYANNAcMAYANNAcAMBA BAYANNAcYAYANNAcRAYANNA"),
   (0xDBD, "cDANTAJA LAYANNA"),
   (0xDC0, "cVAYANNAcTAALUJA SAYANNAcMUURDHAJA SAYANNAcDANTAJA SAYANNAcHAYANNA"),
   (0xDC5, "cMUURDHAJA LAYANNAcFAYANNA"), (0xDCA, "bSIGN AL-LAKUNA"),
   (0xDCF, "bVOWEL SIGN AELA-PILLAdKETTI AEDA-PILLAdDIGA AEDA-PILLAdKETTI IS-PILLA"),
   (0xDD3, "dDIGA IS-PILLAdKETTI PAA-PILLA"), (0xDD6, "dDIGA PAA-PILLA"),
   (0xDD8, "dGAETTA-PILLAdKOMBUVAdDIGA KOMBUVAdKOMBU DEKAdKOMBUVA HAA AELA-PILLA"),
   (0xDDD, "fDIGA AELA-PILLAfGAYANUKITTAdGAYANUKITTA"),
   (0xDE6, "bLITH DIGIT ZEROdONEdTWOdTHREEdFOURdFIVEdSIXdSEVENdEIGHTdNINE"),
   (0xDF2, "bVOWEL SIGN DIGA GAETTA-PILLAeGAYANUKITTAbPUNCTUATION KUNDDALIYA"),
   (0xE01, "aTHAI CHARACTER KO KAIcKHO KHAIdKHUATdKHWAIdKHONdRAKHANGcNGO NGUcCHO CHANdCHING"),
   (0xE0A, "dCHANGcSO SOcCHO CHOEcYO YINGcDO CHADAcTO PATAKcTHO THANdNANGMONTHOdPHUTHAO"),
   (0xE13, "cNO NENcDO DEKcTO TAOcTHO THUNGdTHAHANdTHONGcNO NUcBO BAIMAIcPO PLAcPHO PHUNG"),
   (0xE1D, "cFO FAcPHO PHANcFO FANcPHO SAMPHAOcMO MAcYO YAKcRO RUAcRUcLO LINGcLUcWO WAEN"),
   (0xE28, "cSO SALAdRUSIdSUAcHO HIPcLO CHULAcO ANGcHO NOKHUKcPAIYANNOIcSARA AcMAI HAN-AKAT"),
   (0xE32, "cSARA AAdAMdIdIIdUEdUEEdUdUUcPHINTHU"),
   (0xE3F, "bCURRENCY SYMBOL BAHTbCHARACTER SARA EdAEdOdAI MAIMUANeMAIMALAIcLAKKHANGYAO"),
   (0xE46, "cMAIYAMOKcMAITAIKHUcMAI EKdTHOdTRIdCHATTAWAcTHANTHAKHATcNIKHAHITcYAMAKKAN"),
   (0xE4F, "cFONGMANbDIGIT ZEROcONEcTWOcTHREEcFOURcFIVEcSIXcSEVENcEIGHTcNINE"),
   (0xE5A, "bCHARACTER ANGKHANKHUcKHOMUT"), (0xE81, "aLAO LETTER KOcKHO SUNG"), (0xE84, "dTAM"),
   (0xE86, "cPALI GHAcNGOcCOcPALI CHAcSO TAM"),
   (0xE8C, "cPALI JHAcNYOcPALI NYAdTTAdTTHAdDDAdDDHAdNNAcDOcTOcTHO SUNGdTAMcPALI DHAcNOcBO"),
   (0xE9B, "cPOcPHO SUNGcFO TAMcPHO TAMcFO SUNGcPALI BHAcMOcYOcLO LING"), (0xEA5, "dLOOT"),
   (0xEA7, "cWOcSANSKRIT SHAdSSAcSO SUNGcHO SUNGcPALI LLAcOcHO TAMbELLIPSISbVOWEL SIGN A"),
   (0xEB1, "dMAI KANdAAdAMdIdIIdYdYYdUdUUbSIGN PALI VIRAMAbVOWEL SIGN MAI KON"),
   (0xEBC, "bSEMIVOWEL SIGN LOdNYO"), (0xEC0, "bVOWEL SIGN EdEIdOdAYdAI"), (0xEC6, "bKO LA"),
   (0xEC8, "bTONE MAI EKdTHOdTIdCATAWAbCANCELLATION MARKbNIGGAHITA"),
   (0xED0, "bDIGIT ZEROcONEcTWOcTHREEcFOURcFIVEcSIXcSEVENcEIGHTcNINE"),
   (0xEDC, "bHO NOcMObLETTER KHMU GOdNYO"),
   (0xF00, "aTIBETAN SYLLABLE OMbMARK GTER YIG MGO TRUNCATED Af-UM RNAM BCAD MA"),
   (0xF03, "gGTER TSHEG MAcINITIAL YIG MGO MDUN MAcCLOSING YIG MGO SGAB MA"),
   (0xF06, "cCARET YIG MGO PHUR SHAD MAcYIG MGO TSHEG SHAD MAcSBRUL SHADcBSKUR YIG MGO"),
   (0xF0A, "cBKA- SHOG YIG MGOcINTERSYLLABIC TSHEGcDELIMITER TSHEG BSTARcSHADcNYIS SHAD"),
   (0xF0F, "cTSHEG SHADcNYIS TSHEG SHADcRIN CHEN SPUNGS SHADcRGYA GRAM SHAD"),
   (0xF13, "cCARET -DZUD RTAGS ME LONG CANcGTER TSHEGbLOGOTYPE SIGN CHAD RTAGSdLHAG RTAGS"),
   (0xF17, "bASTROLOGICAL SIGN SGRA GCAN -CHAR RTAGSd-KHYUD PAdSDONG TSHUGS"),
   (0xF1A, "bSIGN RDEL DKAR GCIGeGNYISeGSUMdNAG GCIGeGNYISdDKAR RDEL NAGbDIGIT ZEROcONEcTWO"),
   (0xF23, "cTHREEcFOURcFIVEcSIXcSEVENcEIGHTcNINEcHALF ONEdTWOdTHREEdFOURdFIVEdSIXdSEVEN"),
   (0xF31, "dEIGHTdNINEdZERObMARK BSDUS RTAGScNGAS BZUNG NYI ZLA"),
   (0xF36, "cCARET -DZUD RTAGS BZHI MIG CANcNGAS BZUNG SGOR RTAGScCHE MGOcTSA -PHRU"),
   (0xF3A, "cGUG RTAGS GYONeGYAScANG KHANG GYONeGYASbSIGN YAR TSHEScMAR TSHESbLETTER KAcKHA"),
   (0xF42, "cGAcGHAcNGAcCAcCHAcJA"),
   (0xF49, "cNYAcTTAcTTHAcDDAcDDHAcNNAcTAcTHAcDAcDHAcNAcPAcPHAcBAcBHAcMAcTSAcTSHAcDZAcDZHA"),
   (0xF5D, "cWAcZHAcZAc-AcYAcRAcLAcSHAcSSAcSAcHAcAcKSSAcFIXED-FORM RAcKKAcRRA"),
   (0xF71, "bVOWEL SIGN AAdIdIIdUdUUdVOCALIC ReRReLeLLdEdEEdOdOObSIGN RJES SU NGA RO"),
   (0xF7F, "cRNAM BCADbVOWEL SIGN REVERSED IeIIbSIGN NYI ZLA NAA DAcSNA LDANbMARK HALANTA"),
   (0xF85, "cPALUTAbSIGN LCI RTAGScYANG RTAGScLCE TSA CANcMCHU CANcGRU CAN RGYINGS"),
   (0xF8B, "dMED RGYINGScINVERTED MCHU CANbSUBJOINED SIGN LCE TSA CANdMCHU CAN"),
   (0xF8F, "dINVERTED MCHU CANcLETTER KAdKHAdGAdGHAdNGAdCAdCHAdJA"),
   (0xF99, "dNYAdTTAdTTHAdDDAdDDHAdNNAdTAdTHAdDAdDHAdNAdPAdPHAdBAdBHAdMAdTSAdTSHAdDZAdDZHA"),
   (0xFAD, "dWAdZHAdZAd-AdYAdRAdLAdSHAdSSAdSAdHAdAdKSSAdFIXED-FORM WAeYAeRA"),
   (0xFBE, "bKU RU KHAeBZHI MIG CANbCANTILLATION SIGN HEAVY BEATdLIGHT BEATdCANG TE-U"),
   (0xFC3, "dSBUB -CHALbSYMBOL DRIL BUcRDO RJEcPADMA GDANcRDO RJE RGYA GRAMcPHUR PAcNOR BU"),
   (0xFCA, "eNYIS -KHYILeGSUM -KHYILeBZHI -KHYIL"),
   (0xFCE, "bSIGN RDEL NAG RDEL DKAReGSUMbMARK BSKA- SHOG GI MGO RGYAN"),
   (0xFD1, "cMNYAM YIG GI MGO RGYANcNYIS TSHEGcINITIAL BRDA RNYING YIG MGO MDUN MA"),
   (0xFD4, "cCLOSING BRDA RNYING YIG MGO SGAB MAaRIGHT-FACING SVASTI SIGN"),
   (0xFD6, "aLEFT-FACING SVASTI SIGNaRIGHT-FACING SVASTI SIGN WITH DOTS"),
   (0xFD8, "aLEFT-FACING SVASTI SIGN WITH DOTSaTIBETAN MARK LEADING MCHAN RTAGS"),
   (0xFDA, "cTRAILING MCHAN RTAGS")]

end Scriptlet.Text.CharacterNames
