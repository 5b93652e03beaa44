/-
# Names of characters from U+11000 to U+11FFF

Brahmi and the scripts that came of it.
-/

namespace Scriptlet.Text.CharacterNames

def furtherIndic : List (Nat × String) :=
  [(0x11000, "aBRAHMI SIGN CANDRABINDUcANUSVARAcVISARGAcJIHVAMULIYAcUPADHMANIYAbLETTER AcAAcI"),
   (0x11008, "cIIcUcUUcVOCALIC RdRRdLdLLcEcAIcOcAUcKAcKHAcGAcGHAcNGAcCAcCHAcJAcJHAcNYAcTTA"),
   (0x1101E, "cTTHAcDDAcDDHAcNNAcTAcTHAcDAcDHAcNAcPAcPHAcBAcBHAcMAcYAcRAcLAcVAcSHAcSSAcSAcHA"),
   (0x11034, "cLLAcOLD TAMIL LLLAeRRAeNNNAbVOWEL SIGN AAdBHATTIPROLU AAdIdIIdUdUUdVOCALIC R"),
   (0x1103F, "eRReLeLLdEdAIdOdAUbVIRAMAbDANDAbDOUBLE DANDAbPUNCTUATION DOTcDOUBLE DOTcLINE"),
   (0x1104C, "cCRESCENT BARcLOTUS"),
   (0x11052, "bNUMBER ONEcTWOcTHREEcFOURcFIVEcSIXcSEVENcEIGHTcNINEcTENcTWENTYcTHIRTYcFORTY"),
   (0x1105F, "cFIFTYcSIXTYcSEVENTYcEIGHTYcNINETYcONE HUNDREDdTHOUSANDbDIGIT ZEROcONEcTWO"),
   (0x11069, "cTHREEcFOURcFIVEcSIXcSEVENcEIGHTcNINEbSIGN OLD TAMIL VIRAMA"),
   (0x11071, "bLETTER OLD TAMIL SHORT EfObVOWEL SIGN OLD TAMIL SHORT EgObLETTER OLD TAMIL LLA"),
   (0x1107F, "bNUMBER JOINERaKAITHI SIGN CANDRABINDUcANUSVARAcVISARGAbLETTER AcAAcIcIIcUcUUcE"),
   (0x1108A, "cAIcOcAUcKAcKHAcGAcGHAcNGAcCAcCHAcJAcJHAcNYAcTTAcTTHAcDDAcDDDHAcDDHAcRHAcNNAcTA"),
   (0x1109F, "cTHAcDAcDHAcNAcPAcPHAcBAcBHAcMAcYAcRAcLAcVAcSHAcSSAcSAcHAbVOWEL SIGN AAdIdIIdU"),
   (0x110B4, "dUUdEdAIdOdAUbSIGN VIRAMAcNUKTAbABBREVIATION SIGNbENUMERATION SIGNbNUMBER SIGN"),
   (0x110BE, "bSECTION MARKbDOUBLE SECTION MARKbDANDAbDOUBLE DANDAbVOWEL SIGN VOCALIC R"),
   (0x110CD, "bNUMBER SIGN ABOVE"),
   (0x110D0, "aSORA SOMPENG LETTER SAHdTAHdBAHdCAHdDAHdGAHdMAHdNGAHdLAHdNAHdVAHdPAHdYAHdRAH"),
   (0x110DE, "dHAHdKAHdJAHdNYAHdAHdEEHdIHdUHdOHdEHdMAE"),
   (0x110F0, "cDIGIT ZEROdONEdTWOdTHREEdFOURdFIVEdSIXdSEVENdEIGHTdNINE"),
   (0x11100, "aCHAKMA SIGN CANDRABINDUcANUSVARAcVISARGAbLETTER AAcIcUcEcKAAcKHAAcGAAcGHAA"),
   (0x1110B, "cNGAAcCAAcCHAAcJAAcJHAAcNYAAcTTAAcTTHAAcDDAAcDDHAAcNNAAcTAAcTHAAcDAAcDHAAcNAA"),
   (0x1111B, "cPAAcPHAAcBAAcBHAAcMAAcYYAAcYAAcRAAcLAAcWAAcSAAcHAAbVOWEL SIGN AdIdIIdUdUUdEdAI"),
   (0x1112E, "dOdAUdOIbO MARKbAU MARKbVIRAMAbMAAYYAA"),
   (0x11136, "bDIGIT ZEROcONEcTWOcTHREEcFOURcFIVEcSIXcSEVENcEIGHTcNINEbSECTION MARKbDANDA"),
   (0x11142, "bDOUBLE DANDAbQUESTION MARKbLETTER LHAAbVOWEL SIGN AAdEIbLETTER VAA"),
   (0x11150, "aMAHAJANI LETTER AcIcUcEcOcKAcKHAcGAcGHAcCAcCHAcJAcJHAcNYAcTTAcTTHAcDDAcDDHA"),
   (0x11162, "cNNAcTAcTHAcDAcDHAcNAcPAcPHAcBAcBHAcMAcRAcLAcVAcSAcHAcRRAbSIGN NUKTA"),
   (0x11174, "bABBREVIATION SIGNbSECTION MARKbLIGATURE SHRI"),
   (0x11180, "aSHARADA SIGN CANDRABINDUcANUSVARAcVISARGAbLETTER AcAAcIcIIcUcUUcVOCALIC RdRRdL"),
   (0x1118C, "dLLcEcAIcOcAUcKAcKHAcGAcGHAcNGAcCAcCHAcJAcJHAcNYAcTTAcTTHAcDDAcDDHAcNNAcTAcTHA"),
   (0x111A2, "cDAcDHAcNAcPAcPHAcBAcBHAcMAcYAcRAcLAcLLAcVAcSHAcSSAcSAcHAbVOWEL SIGN AAdIdIIdU"),
   (0x111B7, "dUUdVOCALIC ReRReLeLLdEdAIdOdAUbSIGN VIRAMAcAVAGRAHAcJIHVAMULIYAcUPADHMANIYAbOM"),
   (0x111C5, "bDANDAbDOUBLE DANDAbABBREVIATION SIGNbSEPARATORbSANDHI MARKbSIGN NUKTA"),
   (0x111CB, "bVOWEL MODIFIER MARKbEXTRA SHORT VOWEL MARKbSUTRA MARK"),
   (0x111CE, "bVOWEL SIGN PRISHTHAMATRA EbSIGN INVERTED CANDRABINDUbDIGIT ZEROcONEcTWOcTHREE"),
   (0x111D4, "cFOURcFIVEcSIXcSEVENcEIGHTcNINEbEKAMbSIGN SIDDHAMbHEADSTROKEbCONTINUATION SIGN"),
   (0x111DE, "bSECTION MARK-1cMARK-2"),
   (0x111E1, "aSINHALA ARCHAIC DIGIT ONEdTWOdTHREEdFOURdFIVEdSIXdSEVENdEIGHTdNINEcNUMBER TEN"),
   (0x111EB, "dTWENTYdTHIRTYdFORTYdFIFTYdSIXTYdSEVENTYdEIGHTYdNINETYdONE HUNDREDeTHOUSAND"),
   (0x11200, "aKHOJKI LETTER AcAAcIcUcEcAIcOcAUcKAcKHAcGAcGGAcGHAcNGAcCAcCHAcJAcJJA"),
   (0x11213, "cNYAcTTAcTTHAcDDAcDDHAcNNAcTAcTHAcDAcDDDAcDHAcNAcPAcPHAcBAcBBAcBHAcMAcYAcRAcLA"),
   (0x11228, "cVAcSAcHAcLLAbVOWEL SIGN AAdIdIIdUdEdAIdOdAUbSIGN ANUSVARAcVIRAMAcNUKTAcSHADDA"),
   (0x11238, "bDANDAbDOUBLE DANDAbWORD SEPARATORbSECTION MARKbDOUBLE SECTION MARK"),
   (0x1123D, "bABBREVIATION SIGNbSIGN SUKUN"), (0x11280, "aMULTANI LETTER AcIcUcEcKAcKHAcGA"),
   (0x11288, "cGHA"), (0x1128A, "cCAcCHAcJAcJJA"),
   (0x1128F, "cNYAcTTAcTTHAcDDAcDDDAcDDHAcNNAcTAcTHAcDAcDHAcNAcPAcPHAcBA"),
   (0x1129F, "cBHAcMAcYAcRAcLAcVAcSAcHAcRRAcRHAbSECTION MARK"),
   (0x112B0, "aKHUDAWADI LETTER AcAAcIcIIcUcUUcEcAIcOcAUcKAcKHAcGAcGGAcGHAcNGAcCAcCHAcJAcJJA"),
   (0x112C4, "cJHAcNYAcTTAcTTHAcDDAcDDDAcRRAcDDHAcNNAcTAcTHAcDAcDHAcNAcPAcPHAcBAcBBAcBHAcMA"),
   (0x112D8, "cYAcRAcLAcVAcSHAcSAcHAbSIGN ANUSVARAbVOWEL SIGN AAdIdIIdUdUUdEdAIdOdAU"),
   (0x112E9, "bSIGN NUKTAcVIRAMA"),
   (0x112F0, "bDIGIT ZEROcONEcTWOcTHREEcFOURcFIVEcSIXcSEVENcEIGHTcNINE"),
   (0x11300, "aGRANTHA SIGN COMBINING ANUSVARA ABOVEcCANDRABINDUcANUSVARAcVISARGA"),
   (0x11305, "bLETTER AcAAcIcIIcUcUUcVOCALIC RdL"), (0x1130F, "cEEcAI"),
   (0x11313, "cOOcAUcKAcKHAcGAcGHAcNGAcCAcCHAcJAcJHAcNYAcTTAcTTHAcDDAcDDHAcNNAcTAcTHAcDAcDHA"),
   (0x11328, "cNA"), (0x1132A, "cPAcPHAcBAcBHAcMAcYAcRA"), (0x11332, "cLAcLLA"),
   (0x11335, "cVAcSHAcSSAcSAcHA"),
   (0x1133B, "aCOMBINING BINDU BELOWaGRANTHA SIGN NUKTAcAVAGRAHAbVOWEL SIGN AAdIdIIdUdUU"),
   (0x11343, "dVOCALIC ReRR"), (0x11347, "dEEdAI"), (0x1134B, "dOOdAUbSIGN VIRAMA"),
   (0x11350, "bOM"), (0x11357, "bAU LENGTH MARK"),
   (0x1135D, "bSIGN PLUTAbLETTER VEDIC ANUSVARAdDOUBLE ANUSVARAcVOCALIC RRdLL"),
   (0x11362, "bVOWEL SIGN VOCALIC LeLL"),
   (0x11366, "aCOMBINING GRANTHA DIGIT ZEROdONEdTWOdTHREEdFOURdFIVEdSIX"),
   (0x11370, "cLETTER AdKAdNAdVIdPA"),
   (0x11400, "aNEWA LETTER AcAAcIcIIcUcUUcVOCALIC RdRRdLdLLcEcAIcOcAUcKAcKHAcGAcGHAcNGAcNGHA"),
   (0x11414, "cCAcCHAcJAcJHAcNYAcNYHAcTTAcTTHAcDDAcDDHAcNNAcTAcTHAcDAcDHAcNAcNHAcPAcPHAcBA"),
   (0x11428, "cBHAcMAcMHAcYAcRAcRHAcLAcLHAcWAcSHAcSSAcSAcHAbVOWEL SIGN AAdIdIIdUdUUdVOCALIC R"),
   (0x1143B, "eRReLeLLdEdAIdOdAUbSIGN VIRAMAcCANDRABINDUcANUSVARAcVISARGAcNUKTAcAVAGRAHA"),
   (0x11448, "cFINAL ANUSVARAbOMbSIDDHIbDANDAbDOUBLE DANDAbCOMMAbGAP FILLERbABBREVIATION SIGN"),
   (0x11450, "bDIGIT ZEROcONEcTWOcTHREEcFOURcFIVEcSIXcSEVENcEIGHTcNINEbDOUBLE COMMA"),
   (0x1145B, "bPLACEHOLDER MARK"),
   (0x1145D, "bINSERTION SIGNbSANDHI MARKbLETTER VEDIC ANUSVARAbSIGN JIHVAMULIYAcUPADHMANIYA"),
   (0x11480, "aTIRHUTA ANJIbLETTER AcAAcIcIIcUcUUcVOCALIC RdRRdLdLLcEcAIcOcAUcKAcKHAcGAcGHA"),
   (0x11493, "cNGAcCAcCHAcJAcJHAcNYAcTTAcTTHAcDDAcDDHAcNNAcTAcTHAcDAcDHAcNAcPAcPHAcBAcBHAcMA"),
   (0x114A8, "cYAcRAcLAcVAcSHAcSSAcSAcHAbVOWEL SIGN AAdIdIIdUdUUdVOCALIC ReRReLeLLdEdSHORT E"),
   (0x114BB, "dAIdOdSHORT OdAUbSIGN CANDRABINDUcANUSVARAcVISARGAcVIRAMAcNUKTAcAVAGRAHAbGVANG"),
   (0x114C6, "bABBREVIATION SIGNbOM"),
   (0x114D0, "bDIGIT ZEROcONEcTWOcTHREEcFOURcFIVEcSIXcSEVENcEIGHTcNINE"),
   (0x11580, "aSIDDHAM LETTER AcAAcIcIIcUcUUcVOCALIC RdRRdLdLLcEcAIcOcAUcKAcKHAcGAcGHAcNGAcCA"),
   (0x11594, "cCHAcJAcJHAcNYAcTTAcTTHAcDDAcDDHAcNNAcTAcTHAcDAcDHAcNAcPAcPHAcBAcBHAcMAcYAcRA"),
   (0x115A9, "cLAcVAcSHAcSSAcSAcHAbVOWEL SIGN AAdIdIIdUdUUdVOCALIC ReRR"),
   (0x115B8, "dEdAIdOdAUbSIGN CANDRABINDUcANUSVARAcVISARGAcVIRAMAcNUKTAcSIDDHAMbDANDA"),
   (0x115C3, "bDOUBLE DANDAbSEPARATOR DOTcBARbREPETITION MARK-1cMARK-2cMARK-3"),
   (0x115C9, "bEND OF TEXT MARKbSECTION MARK WITH TRIDENT AND U-SHAPED ORNAMENTS"),
   (0x115CB, "gDOTTED CRESCENTSeRAYS AND DOTTED CRESCENTShDOUBLE CRESCENTShTRIPLE CRESCENTS"),
   (0x115CF, "dDOUBLE RINGfWITH RAYSdWITH DOUBLE CRESCENTSeTRIPLE CRESCENTS"),
   (0x115D3, "eQUADRUPLE CRESCENTSeSEPTUPLE CRESCENTSeCIRCLES AND RAYSgTWO ENCLOSURES"),
   (0x115D7, "gFOUR ENCLOSURESbLETTER THREE-CIRCLE ALTERNATE IcTWO-CIRCLE ALTERNATE IeII"),
   (0x115DB, "cALTERNATE UbVOWEL SIGN ALTERNATE UeUU"),
   (0x11600, "aMODI LETTER AcAAcIcIIcUcUUcVOCALIC RdRRdLdLLcEcAIcOcAUcKAcKHAcGAcGHAcNGAcCA"),
   (0x11614, "cCHAcJAcJHAcNYAcTTAcTTHAcDDAcDDHAcNNAcTAcTHAcDAcDHAcNAcPAcPHAcBAcBHAcMAcYAcRA"),
   (0x11629, "cLAcVAcSHAcSSAcSAcHAcLLAbVOWEL SIGN AAdIdIIdUdUUdVOCALIC ReRReLeLLdEdAIdOdAU"),
   (0x1163D, "bSIGN ANUSVARAcVISARGAcVIRAMAcARDHACANDRAbDANDAbDOUBLE DANDAbABBREVIATION SIGN"),
   (0x11644, "bSIGN HUVA"), (0x11650, "bDIGIT ZEROcONEcTWOcTHREEcFOURcFIVEcSIXcSEVENcEIGHTcNINE"),
   (0x11660, "aMONGOLIAN BIRGA WITH ORNAMENTbROTATED BIRGAbDOUBLE BIRGA WITH ORNAMENT"),
   (0x11663, "bTRIPLE BIRGA WITH ORNAMENTbBIRGA WITH DOUBLE ORNAMENT"),
   (0x11665, "bROTATED BIRGA WITH ORNAMENTeDOUBLE ORNAMENTbINVERTED BIRGA"),
   (0x11668, "dWITH DOUBLE ORNAMENTbSWIRL BIRGAdWITH ORNAMENTeDOUBLE ORNAMENT"),
   (0x1166C, "bTURNED SWIRL BIRGA WITH DOUBLE ORNAMENT"),
   (0x11680, "aTAKRI LETTER AcAAcIcIIcUcUUcEcAIcOcAUcKAcKHAcGAcGHAcNGAcCAcCHAcJAcJHAcNYAcTTA"),
   (0x11695, "cTTHAcDDAcDDHAcNNAcTAcTHAcDAcDHAcNAcPAcPHAcBAcBHAcMAcYAcRAcLAcVAcSHAcSAcHAcRRA"),
   (0x116AB, "bSIGN ANUSVARAcVISARGAbVOWEL SIGN AAdIdIIdUdUUdEdAIdOdAUbSIGN VIRAMAcNUKTA"),
   (0x116B8, "bLETTER ARCHAIC KHAbABBREVIATION SIGN"),
   (0x116C0, "bDIGIT ZEROcONEcTWOcTHREEcFOURcFIVEcSIXcSEVENcEIGHTcNINE"),
   (0x11700, "aAHOM LETTER KAcKHAcNGAcNAcTAcALTERNATE TAcPAcPHAcBAcMAcJAcCHAcTHAcRAcLAcSAcNYA"),
   (0x11711, "cHAcAcDAcDHAcGAcALTERNATE GAcGHAcBHAcJHAcALTERNATE BA"),
   (0x1171D, "bCONSONANT SIGN MEDIAL LAeRAeLIGATING RAbVOWEL SIGN AdAAdIdIIdUdUUdEdAWdOdAIdAM"),
   (0x1172B, "bSIGN KILLER"),
   (0x11730, "bDIGIT ZEROcONEcTWOcTHREEcFOURcFIVEcSIXcSEVENcEIGHTcNINEbNUMBER TENcTWENTY"),
   (0x1173C, "bSIGN SMALL SECTIONcSECTIONcRULAIbSYMBOL VIbLETTER CAcTTAcTTHAcDDAcDDHAcNNAcLLA"),
   (0x11800, "aDOGRA LETTER AcAAcIcIIcUcUUcEcAIcOcAUcKAcKHAcGAcGHAcNGAcCAcCHAcJAcJHAcNYAcTTA"),
   (0x11815, "cTTHAcDDAcDDHAcNNAcTAcTHAcDAcDHAcNAcPAcPHAcBAcBHAcMAcYAcRAcLAcVAcSHAcSSAcSAcHA"),
   (0x1182B, "cRRAbVOWEL SIGN AAdIdIIdUdUUdVOCALIC ReRRdEdAIdOdAUbSIGN ANUSVARAcVISARGA"),
   (0x11839, "cVIRAMAcNUKTAbABBREVIATION SIGN"),
   (0x118A0, "aWARANG CITI CAPITAL LETTER NGAAeAeWIeYUeYAeYOeIIeUUeEeOeANGeGAeKOeENYeYUJeUC"),
   (0x118B0, "eENNeODDeTTEeNUNGeDAeATeAMeBUePUeHIYOeHOLOeHORReHAReSSUUeSIIeVIYO"),
   (0x118C0, "cSMALL LETTER NGAAeAeWIeYUeYAeYOeIIeUUeEeOeANGeGAeKOeENYeYUJeUCeENNeODDeTTE"),
   (0x118D3, "eNUNGeDAeATeAMeBUePUeHIYOeHOLOeHORReHAReSSUUeSIIeVIYOcDIGIT ZEROdONEdTWOdTHREE"),
   (0x118E4, "dFOURdFIVEdSIXdSEVENdEIGHTdNINEcNUMBER TENdTWENTYdTHIRTYdFORTYdFIFTYdSIXTY"),
   (0x118F0, "dSEVENTYdEIGHTYdNINETY"), (0x118FF, "cOMaDIVES AKURU LETTER AdAAdIdIIdUdUUdE"),
   (0x11909, "dO"), (0x1190C, "dKAdKHAdGAdGHAdNGAdCAdCHAdJA"), (0x11915, "dNYAdTTA"),
   (0x11918, "dDDAdDDHAdNNAdTAdTHAdDAdDHAdNAdPAdPHAdBAdBHAdMAdYAdYYAdRAdLAdVAdSHAdSSAdSAdHA"),
   (0x1192E, "dLLAdZAcVOWEL SIGN AAeIeIIeUeUUeE"), (0x11937, "eAIeO"),
   (0x1193B, "cSIGN ANUSVARAdCANDRABINDUdHALANTAcVIRAMAcPREFIXED NASAL SIGNcMEDIAL YA"),
   (0x11941, "cINITIAL RAcMEDIAL RAcSIGN NUKTAcDOUBLE DANDAcGAP FILLERcEND OF TEXT MARK"),
   (0x11950, "cDIGIT ZEROdONEdTWOdTHREEdFOURdFIVEdSIXdSEVENdEIGHTdNINE"),
   (0x119A0, "aNANDINAGARI LETTER AcAAcIcIIcUcUUcVOCALIC RdRR"),
   (0x119AA, "cEcAIcOcAUcKAcKHAcGAcGHAcNGAcCAcCHAcJAcJHAcNYAcTTAcTTHAcDDAcDDHAcNNAcTAcTHAcDA"),
   (0x119C0, "cDHAcNAcPAcPHAcBAcBHAcMAcYAcRAcLAcVAcSHAcSSAcSAcHAcLLAcRRAbVOWEL SIGN AAdIdIIdU"),
   (0x119D5, "dUUdVOCALIC ReRR"),
   (0x119DA, "dEdAIdOdAUbSIGN ANUSVARAcVISARGAcVIRAMAcAVAGRAHAcSIDDHAMbHEADSTROKE"),
   (0x119E4, "bVOWEL SIGN PRISHTHAMATRA E"),
   (0x11A00, "aZANABAZAR SQUARE LETTER AcVOWEL SIGN IeUEeUeEeOEeOeAIeAUeREVERSED I"),
   (0x11A0A, "dLENGTH MARKcLETTER KAdKHAdGAdGHAdNGAdCAdCHAdJAdNYAdTTAdTTHAdDDAdDDHAdNNAdTA"),
   (0x11A1A, "dTHAdDAdDHAdNAdPAdPHAdBAdBHAdMAdTSAdTSHAdDZAdDZHAdZHAdZAd-AdYAdRAdLAdVAdSHAdSSA"),
   (0x11A30, "dSAdHAdKSSAcFINAL CONSONANT MARKcSIGN VIRAMAdCANDRABINDUeWITH ORNAMENT"),
   (0x11A37, "dCANDRA WITH ORNAMENTdANUSVARAdVISARGAcCLUSTER-INITIAL LETTER RA"),
   (0x11A3B, "cCLUSTER-FINAL LETTER YAeRAeLAeVAcINITIAL HEAD MARKcCLOSING HEAD MARK"),
   (0x11A41, "cMARK TSHEGdSHADdDOUBLE SHADdLONG TSHEGcINITIAL DOUBLE-LINED HEAD MARK"),
   (0x11A46, "cCLOSING DOUBLE-LINED HEAD MARKcSUBJOINER"),
   (0x11A50, "aSOYOMBO LETTER AbVOWEL SIGN IdUEdUdEdOdOEdAIdAUdVOCALIC ReLcLENGTH MARK"),
   (0x11A5C, "bLETTER KAcKHAcGAcGHAcNGAcCAcCHAcJAcJHAcNYAcTTAcTTHAcDDAcDDHAcNNAcTAcTHAcDAcDHA"),
   (0x11A6F, "cNAcPAcPHAcBAcBHAcMAcTSAcTSHAcDZAcZHAcZAc-AcYAcRAcLAcVAcSHAcSSAcSAcHAcKSSA"),
   (0x11A84, "bSIGN JIHVAMULIYAcUPADHMANIYAbCLUSTER-INITIAL LETTER RAdLAdSHAdSA"),
   (0x11A8A, "bFINAL CONSONANT SIGN GeKeNGeDeNeBeMeReLeSHeSe-AbSIGN ANUSVARAcVISARGA"),
   (0x11A98, "bGEMINATION MARKbSUBJOINERbMARK TSHEGcSHADcDOUBLE SHADcPLUTA"),
   (0x11A9E, "bHEAD MARK WITH MOON AND SUN AND TRIPLE FLAMEiFLAMEgSUNbTERMINAL MARK-1cMARK-2"),
   (0x11AB0, "aCANADIAN SYLLABICS NATTILIK HIdHIIdHOdHOOdHAdHAAdSHRIdSHRIIdSHROdSHROOdSHRA"),
   (0x11ABB, "dSHRAAcSPEcSPIcSPOcSPAaPAU CIN HAU LETTER PAeKAeLAeMAeDAeZAeVAeNGAeHAeGAeKHAeSA"),
   (0x11ACC, "eBAeCAeTAeTHAeNAePHAeRAeFAeCHAeAeEeIeOeUeUAeIAeFINAL PfKfTfMfNfLfWfNGfY"),
   (0x11AE5, "dRISING TONE LONGeTONEdSANDHI GLOTTAL STOPdRISING TONE LONG FINALfFINAL"),
   (0x11AEA, "dSANDHI GLOTTAL STOP FINALeTONE LONGeTONEfLONG FINALfFINALdMID-LEVEL TONE"),
   (0x11AF0, "dGLOTTAL STOP VARIANTdMID-LEVEL TONE LONG FINALfFINALdLOW-FALLING TONE LONG"),
   (0x11AF4, "eTONEdGLOTTAL STOPdLOW-FALLING TONE LONG FINALfFINALdGLOTTAL STOP FINAL"),
   (0x11C00, "aBHAIKSUKI LETTER AcAAcIcIIcUcUUcVOCALIC RdRRdL"),
   (0x11C0A, "cEcAIcOcAUcKAcKHAcGAcGHAcNGAcCAcCHAcJAcJHAcNYAcTTAcTTHAcDDAcDDHAcNNAcTAcTHAcDA"),
   (0x11C20, "cDHAcNAcPAcPHAcBAcBHAcMAcYAcRAcLAcVAcSHAcSSAcSAcHAbVOWEL SIGN AAdIdIIdUdUU"),
   (0x11C34, "dVOCALIC ReRReL"),
   (0x11C38, "dEdAIdOdAUbSIGN CANDRABINDUcANUSVARAcVISARGAcVIRAMAcAVAGRAHAbDANDAbDOUBLE DANDA"),
   (0x11C43, "bWORD SEPARATORbGAP FILLER-1cFILLER-2"),
   (0x11C50, "bDIGIT ZEROcONEcTWOcTHREEcFOURcFIVEcSIXcSEVENcEIGHTcNINEbNUMBER ONEcTWOcTHREE"),
   (0x11C5D, "cFOURcFIVEcSIXcSEVENcEIGHTcNINEcTENcTWENTYcTHIRTYcFORTYcFIFTYcSIXTYcSEVENTY"),
   (0x11C6A, "cEIGHTYcNINETYbHUNDREDS UNIT MARK"),
   (0x11C70, "aMARCHEN HEAD MARKbMARK SHADbLETTER KAcKHAcGAcNGAcCAcCHAcJAcNYAcTAcTHAcDAcNAcPA"),
   (0x11C7F, "cPHAcBAcMAcTSAcTSHAcDZAcWAcZHAcZAc-AcYAcRAcLAcSHAcSAcHAcA"),
   (0x11C92, "bSUBJOINED LETTER KAdKHAdGAdNGAdCAdCHAdJAdNYAdTAdTHAdDAdNAdPAdPHAdBAdMAdTSA"),
   (0x11CA3, "dTSHAdDZAdWAdZHAdZA"),
   (0x11CA9, "dYAdRAdLAdSHAdSAdHAdAbVOWEL SIGN AAdIdUdEdObSIGN ANUSVARAcCANDRABINDU"),
   (0x11D00, "aMASARAM GONDI LETTER AdAAdIdIIdUdUUdE"), (0x11D08, "dAIdO"),
   (0x11D0B, "dAUdKAdKHAdGAdGHAdNGAdCAdCHAdJAdJHAdNYAdTTAdTTHAdDDAdDDHAdNNAdTAdTHAdDAdDHAdNA"),
   (0x11D20, "dPAdPHAdBAdBHAdMAdYAdRAdLAdVAdSHAdSSAdSAdHAdLLAdKSSAdJNYAdTRAcVOWEL SIGN AAeI"),
   (0x11D33, "eIIeUeUUeVOCALIC R"), (0x11D3A, "eE"), (0x11D3C, "eAIeO"),
   (0x11D3F, "eAUcSIGN ANUSVARAdVISARGAdNUKTAdCANDRAdHALANTAcVIRAMAcREPHAcRA-KARA"),
   (0x11D50, "cDIGIT ZEROdONEdTWOdTHREEdFOURdFIVEdSIXdSEVENdEIGHTdNINE"),
   (0x11D60, "aGUNJALA GONDI LETTER AdAAdIdIIdUdUU"), (0x11D67, "dEEdAI"),
   (0x11D6A, "dOOdAUdYAdVAdBAdBHAdMAdKAdKHAdTAdTHAdLAdGAdGHAdDAdDHAdNAdCAdCHAdTTAdTTHAdLLAdJA"),
   (0x11D81, "dJHAdDDAdDDHAdNGAdPAdPHAdHAdRAdSAcVOWEL SIGN AAeIeIIeUeUU"), (0x11D90, "eEEeAI"),
   (0x11D93, "eOOeAUcSIGN ANUSVARAdVISARGAcVIRAMAcOM"),
   (0x11DA0, "cDIGIT ZEROdONEdTWOdTHREEdFOURdFIVEdSIXdSEVENdEIGHTdNINE"),
   (0x11EE0, "aMAKASAR LETTER KAcGAcNGAcPAcBAcMAcTAcDAcNAcCAcJAcNYAcYAcRAcLAcVAcSAcAbANGKA"),
   (0x11EF3, "bVOWEL SIGN IdUdEdObPASSIMBANGbEND OF SECTION"), (0x11FB0, "aLISU LETTER YHA"),
   (0x11FC0, "aTAMIL FRACTION ONE THREE-HUNDRED-AND-TWENTIETHdONE-HUNDRED-AND-SIXTIETH"),
   (0x11FC2, "dEIGHTIETHdSIXTY-FOURTHdFORTIETHdTHIRTY-SECONDcTHREE EIGHTIETHSdSIXTY-FOURTHS"),
   (0x11FC8, "cONE TWENTIETHdSIXTEENTH-1dSIXTEENTH-2dTENTHdEIGHTHcTHREE TWENTIETHSdSIXTEENTHS"),
   (0x11FCF, "cONE FIFTHdQUARTERdHALF-1dHALF-2cTHREE QUARTERScDOWNSCALING FACTOR KIIZH"),
   (0x11FD5, "bSIGN NELcCEVITUcAAZHAAKKUcUZHAKKUcMUUVUZHAKKUcKURUNIcPATHAKKUcMUKKURUNIcKAACU"),
   (0x11FDE, "cPANAMcPONcVARAAKANcPAARAMcKUZHIcVELIbWET CULTIVATION SIGNbDRY CULTIVATION SIGN"),
   (0x11FE6, "bLAND SIGNbSALT PAN SIGNbTRADITIONAL CREDIT SIGNcNUMBER SIGNbCURRENT SIGN"),
   (0x11FEB, "bAND ODD SIGNbSPENT SIGNbTOTAL SIGNbIN POSSESSION SIGNbSTARTING FROM SIGN"),
   (0x11FF0, "bSIGN MUTHALIYAcVAKAIYARAA"), (0x11FFF, "bPUNCTUATION END OF TEXT")]

end Scriptlet.Text.CharacterNames
