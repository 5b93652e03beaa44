/-
# Names of characters from U+1800 to U+1FFE

Mongolian, the scripts of South East Asia, and further letters with marks.
-/

namespace Scriptlet.Text.CharacterNames

def letters : List (Nat × String) :=
  [(0x1800, "aMONGOLIAN BIRGAbELLIPSISbCOMMAbFULL STOPbCOLONbFOUR DOTSbTODO SOFT HYPHEN"),
   (0x1807, "bSIBE SYLLABLE BOUNDARY MARKERbMANCHU COMMAcFULL STOPbNIRUGU"),
   (0x180B, "bFREE VARIATION SELECTOR ONEeTWOeTHREEbVOWEL SEPARATOR"),
   (0x180F, "bFREE VARIATION SELECTOR FOURbDIGIT ZEROcONEcTWOcTHREEcFOURcFIVEcSIXcSEVEN"),
   (0x1818, "cEIGHTcNINE"),
   (0x1820, "bLETTER AcEcIcOcUcOEcUEcEEcNAcANGcBAcPAcQAcGAcMAcLAcSAcSHAcTAcDAcCHAcJAcYAcRA"),
   (0x1838, "cWAcFAcKAcKHAcTSAcZAcHAAcZRAcLHAcZHIcCHIcTODO LONG VOWEL SIGNdEdIdOdUdOEdUEdANG"),
   (0x184B, "dBAdPAdQAdGAdMAdTAdDAdCHAdJAdTSAdYAdWAdKAdGAAdHAAdJIAdNIAdDZAcSIBE EdIdIYdUEdU"),
   (0x1862, "dANGdKAdGAdHAdPAdSHAdTAdDAdJAdFAdGAAdHAAdTSAdZAdRAAdCHAdZHAcMANCHU IdKAdRAdFA"),
   (0x1877, "dZHAcCHA WITH TWO DOTS"),
   (0x1880, "cALI GALI ANUSVARA ONEeVISARGA ONEeDAMARUeUBADAMAeINVERTED UBADAMAeBALUDA"),
   (0x1886, "eTHREE BALUDAeAeIeKAeNGAeCAeTTAeTTHAeDDAeNNAeTAeDAePAePHAeSSAeZHAeZAeAH"),
   (0x1898, "cTODO ALI GALI TAfZHAcMANCHU ALI GALI GHAfNGAfCAfJHAfTTAfDDHAfTAfDHAfSSAfCYA"),
   (0x18A4, "fZHAfZAcALI GALI HALF UfYAcMANCHU ALI GALI BHAcALI GALI DAGALGA"),
   (0x18AA, "cMANCHU ALI GALI LHA"),
   (0x18B0, "aCANADIAN SYLLABICS OYcAYcAAYcWAYcPOYcPAYcPWOYcTAYcKAYcKWAYcMAYcNOYcNAYcLAYcSOY"),
   (0x18BF, "cSAYcSHOYcSHAYcSHWOYcYOYcYAYcRAYcNWIcOJIBWAY NWIcNWIIcOJIBWAY NWIIcNWO"),
   (0x18CB, "cOJIBWAY NWOcNWOOcOJIBWAY NWOOcRWEEcRWIcRWIIcRWOcRWOOcRWAcOJIBWAY PdTdKdCdMdNdS"),
   (0x18DB, "dSHcEASTERN WcWESTERN WcFINAL SMALL RINGdRAISED DOTcR-CREE RWEcWEST-CREE LOO"),
   (0x18E2, "dLAAcTHWEcTHWAcTTHWEcTTHOOcTTHAAcTLHWEcTLHOOcSAYISI SHWEdSHOOdHOOcCARRIER GWU"),
   (0x18EE, "dDENE GEEdGAAdGWAcSAYISI JUUcCARRIER JWAcBEAVER DENE LeRcCARRIER DENTAL S"),
   (0x1900, "aLIMBU VOWEL-CARRIER LETTERbLETTER KAcKHAcGAcGHAcNGAcCAcCHAcJAcJHAcYANcTAcTHA"),
   (0x190D, "cDAcDHAcNAcPAcPHAcBAcBHAcMAcYAcRAcLAcWAcSHAcSSAcSAcHAcGYANcTRA"),
   (0x1920, "bVOWEL SIGN AdIdUdEEdAIdOOdAUdEdObSUBJOINED LETTER YAdRAdWA"),
   (0x1930, "bSMALL LETTER KAdNGAdANUSVARAdTAdNAdPAdMAdRAdLAbSIGN MUKPHRENGcKEMPHRENGcSA-I"),
   (0x1940, "cLOO"),
   (0x1944, "bEXCLAMATION MARKbQUESTION MARKbDIGIT ZEROcONEcTWOcTHREEcFOURcFIVEcSIXcSEVEN"),
   (0x194E, "cEIGHTcNINEaTAI LE LETTER KAdXAdNGAdTSAdSAdYAdTAdTHAdLAdPAdPHAdMAdFAdVAdHAdQA"),
   (0x1960, "dKHAdTSHAdNAdAdIdEEdEHdUdOOdOdUEdEdAUEdAI"),
   (0x1970, "dTONE-2dTONE-3dTONE-4dTONE-5dTONE-6"),
   (0x1980, "aNEW TAI LUE LETTER HIGH QAeLOW QAeHIGH KAfXAfNGAeLOW KAfXAfNGAeHIGH TSAfSAfYA"),
   (0x198B, "eLOW TSAfSAfYAeHIGH TAfTHAfNAeLOW TAfTHAfNAeHIGH PAfPHAfMAeLOW PAfPHAfMA"),
   (0x199A, "eHIGH FAfVAfLAeLOW FAfVAfLAeHIGH HAfDAfBAeLOW HAfDAfBAeHIGH KVAfXVAeLOW KVAfXVA"),
   (0x19AA, "eHIGH SUAeLOW SUA"),
   (0x19B0, "dVOWEL SIGN VOWEL SHORTENERfAAfIIfUfUUfEfAEfOfOAfUEfAYfAAYfUYfOYfOAYfUEYfIY"),
   (0x19C1, "dLETTER FINAL VfNGfNfMfKfDfBdTONE MARK-1eMARK-2"),
   (0x19D0, "dDIGIT ZEROeONEeTWOeTHREEeFOUReFIVEeSIXeSEVENeEIGHTeNINEdTHAM DIGIT ONE"),
   (0x19DE, "dSIGN LAEeLAEVaKHMER SYMBOL PATHAMASATcMUOY KOETcPII KOETcBEI KOETcBUON KOET"),
   (0x19E5, "cPRAM KOETcPRAM-MUOY KOETcPRAM-PII KOETcPRAM-BEI KOETcPRAM-BUON KOETcDAP KOET"),
   (0x19EB, "cDAP-MUOY KOETcDAP-PII KOETcDAP-BEI KOETcDAP-BUON KOETcDAP-PRAM KOETcTUTEYASAT"),
   (0x19F1, "cMUOY ROCcPII ROCcBEI ROCcBUON ROCcPRAM ROCcPRAM-MUOY ROCcPRAM-PII ROC"),
   (0x19F8, "cPRAM-BEI ROCcPRAM-BUON ROCcDAP ROCcDAP-MUOY ROCcDAP-PII ROCcDAP-BEI ROC"),
   (0x19FE, "cDAP-BUON ROCcDAP-PRAM ROCaBUGINESE LETTER KAcGAcNGAcNGKAcPAcBAcMAcMPAcTAcDAcNA"),
   (0x1A0B, "cNRAcCAcJAcNYAcNYCAcYAcRAcLAcVAcSAcAcHAbVOWEL SIGN IdUdEdOdAE"),
   (0x1A1E, "bPALLAWAbEND OF SECTIONaTAI THAM LETTER HIGH KAeKHAeKXAdLOW KAeKXAeKHAdNGA"),
   (0x1A27, "dHIGH CAeCHAdLOW CAeSAeCHAdNYAdRATAdHIGH RATHAdDAdLOW RATHAdRANAdHIGH TAeTHA"),
   (0x1A34, "dLOW TAeTHAdNAdBAdHIGH PAePHAeFAdLOW PAeFAePHAdMAdLOW YAdHIGH YAdRAdRUEdLAdLUE"),
   (0x1A45, "dWAdHIGH SHAeSSAeSAeHAdLLAdAdLOW HAdIdIIdUdUUdEEdOOdLAEdGREAT SA"),
   (0x1A55, "cCONSONANT SIGN MEDIAL RAfLAeLA TANG LAIcSIGN MAI KANG LAI"),
   (0x1A59, "cCONSONANT SIGN FINAL NGAeLOW PAeHIGH RATHA OR LOW PAeMAeBAeSA"),
   (0x1A60, "cSIGN SAKOTcVOWEL SIGN AeMAI SATeAAeTALL AAeIeIIeUEeUUEeUeUUeOeOA BELOWeOYeEeAE"),
   (0x1A70, "eOOeAIeTHAM AIeOA ABOVEcSIGN MAI KANGdTONE-1dTONE-2dKHUEN TONE-3eTONE-4eTONE-5"),
   (0x1A7A, "dRA HAAMdMAI SAMdKHUEN-LUE KARAN"),
   (0x1A7F, "cCOMBINING CRYPTOGRAMMIC DOTcHORA DIGIT ZEROeONEeTWOeTHREEeFOUReFIVEeSIXeSEVEN"),
   (0x1A88, "eEIGHTeNINE"),
   (0x1A90, "cTHAM DIGIT ZEROeONEeTWOeTHREEeFOUReFIVEeSIXeSEVENeEIGHTeNINE"),
   (0x1AA0, "cSIGN WIANGdWIANGWAAKdSAWANdKEOWdHOYdDOKMAIdREVERSED ROTATED RANAdMAI YAMOK"),
   (0x1AA8, "dKAANdKAANKUUdSATKAANdSATKAANKUUdHANGdCAANG"),
   (0x1AB0, "aCOMBINING DOUBLED CIRCUMFLEX ACCENTbDIAERESIS-RINGbINFINITYbDOWNWARDS ARROW"),
   (0x1AB4, "bTRIPLE DOTbX-X BELOWbWIGGLY LINE BELOWbOPEN MARK BELOWbDOUBLE OPEN MARK BELOW"),
   (0x1AB9, "bLIGHT CENTRALIZATION STROKE BELOWbSTRONG CENTRALIZATION STROKE BELOW"),
   (0x1ABB, "bPARENTHESES ABOVEbDOUBLE PARENTHESES ABOVEbPARENTHESES BELOWcOVERLAY"),
   (0x1ABF, "bLATIN SMALL LETTER W BELOWeTURNED W BELOWbLEFT PARENTHESIS ABOVE LEFT"),
   (0x1AC2, "bRIGHT PARENTHESIS ABOVE RIGHTbLEFT PARENTHESIS BELOW LEFT"),
   (0x1AC4, "bRIGHT PARENTHESIS BELOW RIGHTbSQUARE BRACKETS ABOVEbNUMBER SIGN ABOVE"),
   (0x1AC7, "bINVERTED DOUBLE ARCH ABOVEbPLUS SIGN ABOVEbDOUBLE PLUS SIGN ABOVEeBELOW"),
   (0x1ACB, "bTRIPLE ACUTE ACCENTbLATIN SMALL LETTER INSULAR GfRfT"),
   (0x1B00, "aBALINESE SIGN ULU RICEMdCANDRAcCECEKcSURANGcBISAHbLETTER AKARAdTEDUNGcIKARA"),
   (0x1B08, "dTEDUNGcUKARAdTEDUNGcRA REPAeTEDUNGcLA LENGAeTEDUNGcEKARAcAIKARAcOKARAdTEDUNG"),
   (0x1B13, "cKAdMAHAPRANAcGAdGORAcNGAcCAdLACAcJAdJERAcNYAcTA LATIKdMURDA MAHAPRANA"),
   (0x1B1F, "cDA MURDA ALPAPRANAeMAHAPRANAcNA RAMBATcTAdTAWAcDAdMADUcNAcPAdKAPALcBAdKEMBANG"),
   (0x1B2B, "cMAcYAcRAcLAcWAcSA SAGAdSAPAcSAcHAbSIGN REREKANbVOWEL SIGN TEDUNGdULUeSARIdSUKU"),
   (0x1B39, "eILUTdRA REPAfTEDUNGdLA LENGAfTEDUNGdTALINGeREPAeTEDUNGeREPA TEDUNGdPEPET"),
   (0x1B43, "eTEDUNGbADEG ADEGbLETTER KAF SASAKcKHOT SASAKcTZIR SASAKcEF SASAKcVE SASAK"),
   (0x1B4A, "cZAL SASAKcASYURA SASAKcARCHAIC JNYA"),
   (0x1B50, "bDIGIT ZEROcONEcTWOcTHREEcFOURcFIVEcSIXcSEVENcEIGHTcNINEbPANTIbPAMADAbWINDU"),
   (0x1B5D, "bCARIK PAMUNGKAHcSIKIcPARERENbPAMENENGbMUSICAL SYMBOL DONGdDENGdDUNGdDANG"),
   (0x1B65, "eSURANGdDINGdDAENGdDEUNGdDAINGdDANG GEDEdCOMBINING TEGEHeENDEPeKEMPULeKEMPLI"),
   (0x1B6F, "eJEGOGANeKEMPUL WITH JEGOGANeKEMPLI WITH JEGOGANeBENDEeGONGdRIGHT-HAND OPEN DUG"),
   (0x1B75, "fDAGeCLOSED TUKfTAKdLEFT-HAND OPEN PANGfPUNGeCLOSED PLAKfPLUKeOPEN PING"),
   (0x1B7D, "bPANTI LANTANGbPAMADA LANTANG"),
   (0x1B80, "aSUNDANESE SIGN PANYECEKcPANGLAYARcPANGWISADbLETTER AcIcUcAEcOcEcEUcKAcQAcGA"),
   (0x1B8D, "cNGAcCAcJAcZAcNYAcTAcDAcNAcPAcFAcVAcBAcMAcYAcRAcLAcWAcSAcXAcHA"),
   (0x1BA1, "bCONSONANT SIGN PAMINGKALdPANYAKRAdPANYIKUbVOWEL SIGN PANGHULUdPANYUKU"),
   (0x1BA6, "dPANAELAENGdPANOLONGdPAMEPETdPANEULEUNGbSIGN PAMAAEHcVIRAMA"),
   (0x1BAC, "bCONSONANT SIGN PASANGAN MAeWAbLETTER KHAcSYAbDIGIT ZEROcONEcTWOcTHREEcFOUR"),
   (0x1BB5, "cFIVEcSIXcSEVENcEIGHTcNINEbAVAGRAHAbLETTER REUcLEUcBHAcFINAL KdMaBATAK LETTER A"),
   (0x1BC1, "cSIMALUNGUN AcHAcSIMALUNGUN HAcMANDAILING HAcBAcKARO BAcPAcSIMALUNGUN PAcNA"),
   (0x1BCA, "cMANDAILING NAcWAcSIMALUNGUN WAcPAKPAK WAcGAcSIMALUNGUN GAcJAcDAcRA"),
   (0x1BD3, "cSIMALUNGUN RAcMAcSIMALUNGUN MAcSOUTHERN TAcNORTHERN TAcSAcSIMALUNGUN SA"),
   (0x1BDA, "cMANDAILING SAcYAcSIMALUNGUN YAcNGAcLAcSIMALUNGUN LAcNYAcCAcNDAcMBAcIcU"),
   (0x1BE6, "bSIGN TOMPIbVOWEL SIGN EdPAKPAK EdEEdIdKARO IdOdKARO OdUeFOR SIMALUNGUN SA"),
   (0x1BF0, "bCONSONANT SIGN NGdHbPANGOLATbPANONGONAN"),
   (0x1BFC, "bSYMBOL BINDU NA METEKdPINARBORASdJUDULdPANGOLATaLEPCHA LETTER KAcKLAcKHAcGA"),
   (0x1C04, "cGLAcNGAcCAcCHAcJAcNYAcTAcTHAcDAcNAcPAcPLAcPHAcFAcFLAcBAcBLAcMAcMLAcTSAcTSHA"),
   (0x1C19, "cDZAcYAcRAcLAcHAcHLAcVAcSAcSHAcWAcAbSUBJOINED LETTER YAdRAbVOWEL SIGN AAdIdOdOO"),
   (0x1C2A, "dUdUUdEbCONSONANT SIGN KdMdLdNdPdRdTdNYIN-DOdKANGbSIGN RANcNUKTA"),
   (0x1C3B, "bPUNCTUATION TA-ROLcNYET THYOOM TA-ROLcCER-WAcTSHOOK CER-WAcTSHOOKbDIGIT ZERO"),
   (0x1C41, "cONEcTWOcTHREEcFOURcFIVEcSIXcSEVENcEIGHTcNINE"),
   (0x1C4D, "bLETTER TTAcTTHAcDDAaOL CHIKI DIGIT ZEROdONEdTWOdTHREEdFOURdFIVEdSIXdSEVEN"),
   (0x1C58, "dEIGHTdNINEcLETTER LAdATdAGdANGdALdLAAdAAKdAAJdAAMdAAWdLIdISdIHdINYdIRdLUdUCdUD"),
   (0x1C6C, "dUNNdUYdLEdEPdEDDdENdERRdLOdOTTdOBdOVdOHcMU TTUDDAGcGAAHLAA TTUDDAAG"),
   (0x1C7A, "cMU-GAAHLAA TTUDDAAGcRELAAcPHAARKAAcAHADcPUNCTUATION MUCAADdDOUBLE MUCAAD"),
   (0x1C80, "aCYRILLIC SMALL LETTER ROUNDED VEdLONG-LEGGED DEdNARROW OdWIDE ESdTALL TE"),
   (0x1C85, "dTHREE-LEGGED TEdTALL HARD SIGNeYATdUNBLENDED UK"),
   (0x1C90, "aGEORGIAN MTAVRULI CAPITAL LETTER ANeBANeGANeDONeENeVINeZENeTANeINeKANeLASeMAN"),
   (0x1C9C, "eNAReONePAReZHAReRAEeSANeTAReUNePHAReKHAReGHANeQAReSHINeCHINeCANeJILeCILeCHAR"),
   (0x1CAE, "eXANeJHANeHAEeHEeHIEeWEeHAReHOEeFIeYNeELIFIeTURNED GANeAIN"),
   (0x1CBD, "eAENeHARD SIGNeLABIAL SIGNaSUNDANESE PUNCTUATION BINDU SURYAdPANGLONGdPURNAMA"),
   (0x1CC3, "dCAKRAdLEU SATANGAdKA SATANGAdDA SATANGAdBA SATANGA"),
   (0x1CD0, "aVEDIC TONE KARSHANAcSHARAcPRENKHAbSIGN NIHSHVASAcYAJURVEDIC MIDLINE SVARITA"),
   (0x1CD5, "bTONE YAJURVEDIC AGGRAVATED INDEPENDENT SVARITAdINDEPENDENT SVARITA"),
   (0x1CD7, "dKATHAKA INDEPENDENT SVARITAcCANDRA BELOW"),
   (0x1CD9, "cYAJURVEDIC KATHAKA INDEPENDENT SVARITA SCHROEDERcDOUBLE SVARITAcTRIPLE SVARITA"),
   (0x1CDC, "cKATHAKA ANUDATTAcDOT BELOWcTWO DOTS BELOWcTHREE DOTS BELOW"),
   (0x1CE0, "cRIGVEDIC KASHMIRI INDEPENDENT SVARITAcATHARVAVEDIC INDEPENDENT SVARITA"),
   (0x1CE2, "bSIGN VISARGA SVARITAdUDATTAcREVERSED VISARGA UDATTAcVISARGA ANUDATTA"),
   (0x1CE6, "cREVERSED VISARGA ANUDATTAcVISARGA UDATTA WITH TAILdANUDATTA WITH TAIL"),
   (0x1CE9, "cANUSVARA ANTARGOMUKHAdBAHIRGOMUKHAdVAMAGOMUKHAeWITH TAILcTIRYAK"),
   (0x1CEE, "cHEXIFORM LONG ANUSVARAcLONG ANUSVARAcRTHANG LONG ANUSVARA"),
   (0x1CF1, "cANUSVARA UBHAYATO MUKHAcARDHAVISARGAcROTATED ARDHAVISARGAbTONE CANDRA ABOVE"),
   (0x1CF5, "bSIGN JIHVAMULIYAcUPADHMANIYAcATIKRAMAbTONE RING ABOVEcDOUBLE RING ABOVE"),
   (0x1CFA, "bSIGN DOUBLE ANUSVARA ANTARGOMUKHA"),
   (0x1D00, "aLATIN LETTER SMALL CAPITAL AeAEbSMALL LETTER TURNED AE"),
   (0x1D03, "bLETTER SMALL CAPITAL BARRED BeCeDeETHeEbSMALL LETTER TURNED OPEN EeI"),
   (0x1D0A, "bLETTER SMALL CAPITAL JeKeL WITH STROKEeMeREVERSED NeOeOPEN O"),
   (0x1D11, "bSMALL LETTER SIDEWAYS OeOPEN OeO WITH STROKEdTURNED OEbLETTER SMALL CAPITAL OU"),
   (0x1D16, "bSMALL LETTER TOP HALF OdBOTTOM HALF ObLETTER SMALL CAPITAL PeREVERSED R"),
   (0x1D1A, "eTURNED ReTeUbSMALL LETTER SIDEWAYS UeDIAERESIZED UeTURNED M"),
   (0x1D20, "bLETTER SMALL CAPITAL VeWeZeEZHcVOICED LARYNGEAL SPIRANTcAIN"),
   (0x1D26, "aGREEK LETTER SMALL CAPITAL GAMMAeLAMDAePIeRHOePSI"),
   (0x1D2B, "aCYRILLIC LETTER SMALL CAPITAL ELaMODIFIER LETTER CAPITAL AdAEdBdBARRED BdDdE"),
   (0x1D32, "dREVERSED EdGdHdIdJdKdLdMdNdREVERSED NdOdOUdPdRdTdUdWcSMALL AdTURNED AdALPHA"),
   (0x1D46, "dTURNED AEdBdDdEdSCHWAdOPEN EdTURNED OPEN EdGdTURNED IdKdMdENGdOdOPEN O"),
   (0x1D54, "dTOP HALF OdBOTTOM HALF OdPdTdUdSIDEWAYS UdTURNED MdVdAINdBETAdGREEK GAMMA"),
   (0x1D5F, "dDELTAdGREEK PHIdCHIaLATIN SUBSCRIPT SMALL LETTER IeReUeV"),
   (0x1D66, "aGREEK SUBSCRIPT SMALL LETTER BETAeGAMMAeRHOePHIeCHIaLATIN SMALL LETTER UE"),
   (0x1D6C, "dB WITH MIDDLE TILDEdD WITH MIDDLE TILDEdF WITH MIDDLE TILDE"),
   (0x1D6F, "dM WITH MIDDLE TILDEdN WITH MIDDLE TILDEdP WITH MIDDLE TILDE"),
   (0x1D72, "dR WITH MIDDLE TILDEfFISHHOOK AND MIDDLE TILDEdS WITH MIDDLE TILDE"),
   (0x1D75, "dT WITH MIDDLE TILDEdZ WITH MIDDLE TILDEdTURNED GaMODIFIER LETTER CYRILLIC EN"),
   (0x1D79, "aLATIN SMALL LETTER INSULAR GdTH WITH STRIKETHROUGH"),
   (0x1D7B, "cCAPITAL LETTER I WITH STROKEcLETTER IOTA WITH STROKEdP WITH STROKE"),
   (0x1D7E, "cCAPITAL LETTER U WITH STROKEcLETTER UPSILON WITH STROKEdB WITH PALATAL HOOK"),
   (0x1D81, "dD WITH PALATAL HOOKdF WITH PALATAL HOOKdG WITH PALATAL HOOK"),
   (0x1D84, "dK WITH PALATAL HOOKdL WITH PALATAL HOOKdM WITH PALATAL HOOK"),
   (0x1D87, "dN WITH PALATAL HOOKdP WITH PALATAL HOOKdR WITH PALATAL HOOK"),
   (0x1D8A, "dS WITH PALATAL HOOKdESH WITH PALATAL HOOKdV WITH PALATAL HOOK"),
   (0x1D8D, "dX WITH PALATAL HOOKdZ WITH PALATAL HOOKdA WITH RETROFLEX HOOK"),
   (0x1D90, "dALPHA WITH RETROFLEX HOOKdD WITH HOOK AND TAILdE WITH RETROFLEX HOOK"),
   (0x1D93, "dOPEN E WITH RETROFLEX HOOKdREVERSED OPEN E WITH RETROFLEX HOOK"),
   (0x1D95, "dSCHWA WITH RETROFLEX HOOKdI WITH RETROFLEX HOOKdOPEN O WITH RETROFLEX HOOK"),
   (0x1D98, "dESH WITH RETROFLEX HOOKdU WITH RETROFLEX HOOKdEZH WITH RETROFLEX HOOK"),
   (0x1D9B, "aMODIFIER LETTER SMALL TURNED ALPHAdCeWITH CURLdETHdREVERSED OPEN EdF"),
   (0x1DA1, "dDOTLESS J WITH STROKEdSCRIPT GdTURNED HdI WITH STROKEdIOTAdCAPITAL I"),
   (0x1DA7, "fWITH STROKEdJ WITH CROSSED-TAILdL WITH RETROFLEX HOOKfPALATAL HOOKdCAPITAL L"),
   (0x1DAC, "dM WITH HOOKdTURNED M WITH LONG LEGdN WITH LEFT HOOKfRETROFLEX HOOKdCAPITAL N"),
   (0x1DB1, "dBARRED OdPHIdS WITH HOOKdESHdT WITH PALATAL HOOKdU BARdUPSILONdCAPITAL U"),
   (0x1DB9, "dV WITH HOOKdTURNED VdZeWITH RETROFLEX HOOKfCURLdEZHdTHETA"),
   (0x1DC0, "aCOMBINING DOTTED GRAVE ACCENTcACUTE ACCENTbSNAKE BELOWbSUSPENSION MARK"),
   (0x1DC4, "bMACRON-ACUTEbGRAVE-MACRONbMACRON-GRAVEbACUTE-MACRONbGRAVE-ACUTE-GRAVE"),
   (0x1DC9, "bACUTE-GRAVE-ACUTEbLATIN SMALL LETTER R BELOWbBREVE-MACRONbMACRON-BREVE"),
   (0x1DCD, "bDOUBLE CIRCUMFLEX ABOVEbOGONEK ABOVEbZIGZAG BELOWbIS BELOWbUR ABOVEbUS ABOVE"),
   (0x1DD3, "bLATIN SMALL LETTER FLATTENED OPEN A ABOVEeAEeAOeAVeC CEDILLAeINSULAR DeETHeG"),
   (0x1DDB, "cLETTER SMALL CAPITAL GcSMALL LETTER KeLcLETTER SMALL CAPITAL LfM"),
   (0x1DE0, "cSMALL LETTER NcLETTER SMALL CAPITAL NfRcSMALL LETTER R ROTUNDAeSeLONG SeZ"),
   (0x1DE7, "eALPHAeBeBETAeSCHWAeFeL WITH DOUBLE MIDDLE TILDE"),
   (0x1DED, "eO WITH LIGHT CENTRALIZATION STROKEePeESHeU WITH LIGHT CENTRALIZATION STROKEeW"),
   (0x1DF2, "eA WITH DIAERESISeO WITH DIAERESISeU WITH DIAERESISbUP TACK ABOVE"),
   (0x1DF6, "bKAVYKA ABOVE RIGHTdLEFTbDOT ABOVE LEFTbWIDE INVERTED BRIDGE BELOW"),
   (0x1DFA, "bDOT BELOW LEFTbDELETION MARKbDOUBLE INVERTED BREVE BELOWbALMOST EQUAL TO BELOW"),
   (0x1DFE, "bLEFT ARROWHEAD ABOVEbRIGHT ARROWHEAD AND DOWN ARROWHEAD BELOW"),
   (0x1E00, "aLATIN CAPITAL LETTER A WITH RING BELOWbSMALL LETTER A WITH RING BELOW"),
   (0x1E02, "bCAPITAL LETTER B WITH DOT ABOVEbSMALL LETTER B WITH DOT ABOVE"),
   (0x1E04, "bCAPITAL LETTER B WITH DOT BELOWbSMALL LETTER B WITH DOT BELOW"),
   (0x1E06, "bCAPITAL LETTER B WITH LINE BELOWbSMALL LETTER B WITH LINE BELOW"),
   (0x1E08, "bCAPITAL LETTER C WITH CEDILLA AND ACUTEbSMALL LETTER C WITH CEDILLA AND ACUTE"),
   (0x1E0A, "bCAPITAL LETTER D WITH DOT ABOVEbSMALL LETTER D WITH DOT ABOVE"),
   (0x1E0C, "bCAPITAL LETTER D WITH DOT BELOWbSMALL LETTER D WITH DOT BELOW"),
   (0x1E0E, "bCAPITAL LETTER D WITH LINE BELOWbSMALL LETTER D WITH LINE BELOW"),
   (0x1E10, "bCAPITAL LETTER D WITH CEDILLAbSMALL LETTER D WITH CEDILLA"),
   (0x1E12, "bCAPITAL LETTER D WITH CIRCUMFLEX BELOWbSMALL LETTER D WITH CIRCUMFLEX BELOW"),
   (0x1E14, "bCAPITAL LETTER E WITH MACRON AND GRAVEbSMALL LETTER E WITH MACRON AND GRAVE"),
   (0x1E16, "bCAPITAL LETTER E WITH MACRON AND ACUTEbSMALL LETTER E WITH MACRON AND ACUTE"),
   (0x1E18, "bCAPITAL LETTER E WITH CIRCUMFLEX BELOWbSMALL LETTER E WITH CIRCUMFLEX BELOW"),
   (0x1E1A, "bCAPITAL LETTER E WITH TILDE BELOWbSMALL LETTER E WITH TILDE BELOW"),
   (0x1E1C, "bCAPITAL LETTER E WITH CEDILLA AND BREVEbSMALL LETTER E WITH CEDILLA AND BREVE"),
   (0x1E1E, "bCAPITAL LETTER F WITH DOT ABOVEbSMALL LETTER F WITH DOT ABOVE"),
   (0x1E20, "bCAPITAL LETTER G WITH MACRONbSMALL LETTER G WITH MACRON"),
   (0x1E22, "bCAPITAL LETTER H WITH DOT ABOVEbSMALL LETTER H WITH DOT ABOVE"),
   (0x1E24, "bCAPITAL LETTER H WITH DOT BELOWbSMALL LETTER H WITH DOT BELOW"),
   (0x1E26, "bCAPITAL LETTER H WITH DIAERESISbSMALL LETTER H WITH DIAERESIS"),
   (0x1E28, "bCAPITAL LETTER H WITH CEDILLAbSMALL LETTER H WITH CEDILLA"),
   (0x1E2A, "bCAPITAL LETTER H WITH BREVE BELOWbSMALL LETTER H WITH BREVE BELOW"),
   (0x1E2C, "bCAPITAL LETTER I WITH TILDE BELOWbSMALL LETTER I WITH TILDE BELOW"),
   (0x1E2E, "bCAPITAL LETTER I WITH DIAERESIS AND ACUTE"),
   (0x1E2F, "bSMALL LETTER I WITH DIAERESIS AND ACUTEbCAPITAL LETTER K WITH ACUTE"),
   (0x1E31, "bSMALL LETTER K WITH ACUTEbCAPITAL LETTER K WITH DOT BELOW"),
   (0x1E33, "bSMALL LETTER K WITH DOT BELOWbCAPITAL LETTER K WITH LINE BELOW"),
   (0x1E35, "bSMALL LETTER K WITH LINE BELOWbCAPITAL LETTER L WITH DOT BELOW"),
   (0x1E37, "bSMALL LETTER L WITH DOT BELOWbCAPITAL LETTER L WITH DOT BELOW AND MACRON"),
   (0x1E39, "bSMALL LETTER L WITH DOT BELOW AND MACRONbCAPITAL LETTER L WITH LINE BELOW"),
   (0x1E3B, "bSMALL LETTER L WITH LINE BELOWbCAPITAL LETTER L WITH CIRCUMFLEX BELOW"),
   (0x1E3D, "bSMALL LETTER L WITH CIRCUMFLEX BELOWbCAPITAL LETTER M WITH ACUTE"),
   (0x1E3F, "bSMALL LETTER M WITH ACUTEbCAPITAL LETTER M WITH DOT ABOVE"),
   (0x1E41, "bSMALL LETTER M WITH DOT ABOVEbCAPITAL LETTER M WITH DOT BELOW"),
   (0x1E43, "bSMALL LETTER M WITH DOT BELOWbCAPITAL LETTER N WITH DOT ABOVE"),
   (0x1E45, "bSMALL LETTER N WITH DOT ABOVEbCAPITAL LETTER N WITH DOT BELOW"),
   (0x1E47, "bSMALL LETTER N WITH DOT BELOWbCAPITAL LETTER N WITH LINE BELOW"),
   (0x1E49, "bSMALL LETTER N WITH LINE BELOWbCAPITAL LETTER N WITH CIRCUMFLEX BELOW"),
   (0x1E4B, "bSMALL LETTER N WITH CIRCUMFLEX BELOWbCAPITAL LETTER O WITH TILDE AND ACUTE"),
   (0x1E4D, "bSMALL LETTER O WITH TILDE AND ACUTEbCAPITAL LETTER O WITH TILDE AND DIAERESIS"),
   (0x1E4F, "bSMALL LETTER O WITH TILDE AND DIAERESISbCAPITAL LETTER O WITH MACRON AND GRAVE"),
   (0x1E51, "bSMALL LETTER O WITH MACRON AND GRAVEbCAPITAL LETTER O WITH MACRON AND ACUTE"),
   (0x1E53, "bSMALL LETTER O WITH MACRON AND ACUTEbCAPITAL LETTER P WITH ACUTE"),
   (0x1E55, "bSMALL LETTER P WITH ACUTEbCAPITAL LETTER P WITH DOT ABOVE"),
   (0x1E57, "bSMALL LETTER P WITH DOT ABOVEbCAPITAL LETTER R WITH DOT ABOVE"),
   (0x1E59, "bSMALL LETTER R WITH DOT ABOVEbCAPITAL LETTER R WITH DOT BELOW"),
   (0x1E5B, "bSMALL LETTER R WITH DOT BELOWbCAPITAL LETTER R WITH DOT BELOW AND MACRON"),
   (0x1E5D, "bSMALL LETTER R WITH DOT BELOW AND MACRONbCAPITAL LETTER R WITH LINE BELOW"),
   (0x1E5F, "bSMALL LETTER R WITH LINE BELOWbCAPITAL LETTER S WITH DOT ABOVE"),
   (0x1E61, "bSMALL LETTER S WITH DOT ABOVEbCAPITAL LETTER S WITH DOT BELOW"),
   (0x1E63, "bSMALL LETTER S WITH DOT BELOWbCAPITAL LETTER S WITH ACUTE AND DOT ABOVE"),
   (0x1E65, "bSMALL LETTER S WITH ACUTE AND DOT ABOVE"),
   (0x1E66, "bCAPITAL LETTER S WITH CARON AND DOT ABOVE"),
   (0x1E67, "bSMALL LETTER S WITH CARON AND DOT ABOVE"),
   (0x1E68, "bCAPITAL LETTER S WITH DOT BELOW AND DOT ABOVE"),
   (0x1E69, "bSMALL LETTER S WITH DOT BELOW AND DOT ABOVEbCAPITAL LETTER T WITH DOT ABOVE"),
   (0x1E6B, "bSMALL LETTER T WITH DOT ABOVEbCAPITAL LETTER T WITH DOT BELOW"),
   (0x1E6D, "bSMALL LETTER T WITH DOT BELOWbCAPITAL LETTER T WITH LINE BELOW"),
   (0x1E6F, "bSMALL LETTER T WITH LINE BELOWbCAPITAL LETTER T WITH CIRCUMFLEX BELOW"),
   (0x1E71, "bSMALL LETTER T WITH CIRCUMFLEX BELOWbCAPITAL LETTER U WITH DIAERESIS BELOW"),
   (0x1E73, "bSMALL LETTER U WITH DIAERESIS BELOWbCAPITAL LETTER U WITH TILDE BELOW"),
   (0x1E75, "bSMALL LETTER U WITH TILDE BELOWbCAPITAL LETTER U WITH CIRCUMFLEX BELOW"),
   (0x1E77, "bSMALL LETTER U WITH CIRCUMFLEX BELOWbCAPITAL LETTER U WITH TILDE AND ACUTE"),
   (0x1E79, "bSMALL LETTER U WITH TILDE AND ACUTEbCAPITAL LETTER U WITH MACRON AND DIAERESIS"),
   (0x1E7B, "bSMALL LETTER U WITH MACRON AND DIAERESISbCAPITAL LETTER V WITH TILDE"),
   (0x1E7D, "bSMALL LETTER V WITH TILDEbCAPITAL LETTER V WITH DOT BELOW"),
   (0x1E7F, "bSMALL LETTER V WITH DOT BELOWbCAPITAL LETTER W WITH GRAVE"),
   (0x1E81, "bSMALL LETTER W WITH GRAVEbCAPITAL LETTER W WITH ACUTE"),
   (0x1E83, "bSMALL LETTER W WITH ACUTEbCAPITAL LETTER W WITH DIAERESIS"),
   (0x1E85, "bSMALL LETTER W WITH DIAERESISbCAPITAL LETTER W WITH DOT ABOVE"),
   (0x1E87, "bSMALL LETTER W WITH DOT ABOVEbCAPITAL LETTER W WITH DOT BELOW"),
   (0x1E89, "bSMALL LETTER W WITH DOT BELOWbCAPITAL LETTER X WITH DOT ABOVE"),
   (0x1E8B, "bSMALL LETTER X WITH DOT ABOVEbCAPITAL LETTER X WITH DIAERESIS"),
   (0x1E8D, "bSMALL LETTER X WITH DIAERESISbCAPITAL LETTER Y WITH DOT ABOVE"),
   (0x1E8F, "bSMALL LETTER Y WITH DOT ABOVEbCAPITAL LETTER Z WITH CIRCUMFLEX"),
   (0x1E91, "bSMALL LETTER Z WITH CIRCUMFLEXbCAPITAL LETTER Z WITH DOT BELOW"),
   (0x1E93, "bSMALL LETTER Z WITH DOT BELOWbCAPITAL LETTER Z WITH LINE BELOW"),
   (0x1E95, "bSMALL LETTER Z WITH LINE BELOWdH WITH LINE BELOWdT WITH DIAERESIS"),
   (0x1E98, "dW WITH RING ABOVEdY WITH RING ABOVEdA WITH RIGHT HALF RING"),
   (0x1E9B, "dLONG S WITH DOT ABOVEgDIAGONAL STROKEgHIGH STROKEbCAPITAL LETTER SHARP S"),
   (0x1E9F, "bSMALL LETTER DELTAbCAPITAL LETTER A WITH DOT BELOW"),
   (0x1EA1, "bSMALL LETTER A WITH DOT BELOWbCAPITAL LETTER A WITH HOOK ABOVE"),
   (0x1EA3, "bSMALL LETTER A WITH HOOK ABOVEbCAPITAL LETTER A WITH CIRCUMFLEX AND ACUTE"),
   (0x1EA5, "bSMALL LETTER A WITH CIRCUMFLEX AND ACUTE"),
   (0x1EA6, "bCAPITAL LETTER A WITH CIRCUMFLEX AND GRAVE"),
   (0x1EA7, "bSMALL LETTER A WITH CIRCUMFLEX AND GRAVE"),
   (0x1EA8, "bCAPITAL LETTER A WITH CIRCUMFLEX AND HOOK ABOVE"),
   (0x1EA9, "bSMALL LETTER A WITH CIRCUMFLEX AND HOOK ABOVE"),
   (0x1EAA, "bCAPITAL LETTER A WITH CIRCUMFLEX AND TILDE"),
   (0x1EAB, "bSMALL LETTER A WITH CIRCUMFLEX AND TILDE"),
   (0x1EAC, "bCAPITAL LETTER A WITH CIRCUMFLEX AND DOT BELOW"),
   (0x1EAD, "bSMALL LETTER A WITH CIRCUMFLEX AND DOT BELOW"),
   (0x1EAE, "bCAPITAL LETTER A WITH BREVE AND ACUTEbSMALL LETTER A WITH BREVE AND ACUTE"),
   (0x1EB0, "bCAPITAL LETTER A WITH BREVE AND GRAVEbSMALL LETTER A WITH BREVE AND GRAVE"),
   (0x1EB2, "bCAPITAL LETTER A WITH BREVE AND HOOK ABOVE"),
   (0x1EB3, "bSMALL LETTER A WITH BREVE AND HOOK ABOVEbCAPITAL LETTER A WITH BREVE AND TILDE"),
   (0x1EB5, "bSMALL LETTER A WITH BREVE AND TILDEbCAPITAL LETTER A WITH BREVE AND DOT BELOW"),
   (0x1EB7, "bSMALL LETTER A WITH BREVE AND DOT BELOWbCAPITAL LETTER E WITH DOT BELOW"),
   (0x1EB9, "bSMALL LETTER E WITH DOT BELOWbCAPITAL LETTER E WITH HOOK ABOVE"),
   (0x1EBB, "bSMALL LETTER E WITH HOOK ABOVEbCAPITAL LETTER E WITH TILDE"),
   (0x1EBD, "bSMALL LETTER E WITH TILDEbCAPITAL LETTER E WITH CIRCUMFLEX AND ACUTE"),
   (0x1EBF, "bSMALL LETTER E WITH CIRCUMFLEX AND ACUTE"),
   (0x1EC0, "bCAPITAL LETTER E WITH CIRCUMFLEX AND GRAVE"),
   (0x1EC1, "bSMALL LETTER E WITH CIRCUMFLEX AND GRAVE"),
   (0x1EC2, "bCAPITAL LETTER E WITH CIRCUMFLEX AND HOOK ABOVE"),
   (0x1EC3, "bSMALL LETTER E WITH CIRCUMFLEX AND HOOK ABOVE"),
   (0x1EC4, "bCAPITAL LETTER E WITH CIRCUMFLEX AND TILDE"),
   (0x1EC5, "bSMALL LETTER E WITH CIRCUMFLEX AND TILDE"),
   (0x1EC6, "bCAPITAL LETTER E WITH CIRCUMFLEX AND DOT BELOW"),
   (0x1EC7, "bSMALL LETTER E WITH CIRCUMFLEX AND DOT BELOWbCAPITAL LETTER I WITH HOOK ABOVE"),
   (0x1EC9, "bSMALL LETTER I WITH HOOK ABOVEbCAPITAL LETTER I WITH DOT BELOW"),
   (0x1ECB, "bSMALL LETTER I WITH DOT BELOWbCAPITAL LETTER O WITH DOT BELOW"),
   (0x1ECD, "bSMALL LETTER O WITH DOT BELOWbCAPITAL LETTER O WITH HOOK ABOVE"),
   (0x1ECF, "bSMALL LETTER O WITH HOOK ABOVEbCAPITAL LETTER O WITH CIRCUMFLEX AND ACUTE"),
   (0x1ED1, "bSMALL LETTER O WITH CIRCUMFLEX AND ACUTE"),
   (0x1ED2, "bCAPITAL LETTER O WITH CIRCUMFLEX AND GRAVE"),
   (0x1ED3, "bSMALL LETTER O WITH CIRCUMFLEX AND GRAVE"),
   (0x1ED4, "bCAPITAL LETTER O WITH CIRCUMFLEX AND HOOK ABOVE"),
   (0x1ED5, "bSMALL LETTER O WITH CIRCUMFLEX AND HOOK ABOVE"),
   (0x1ED6, "bCAPITAL LETTER O WITH CIRCUMFLEX AND TILDE"),
   (0x1ED7, "bSMALL LETTER O WITH CIRCUMFLEX AND TILDE"),
   (0x1ED8, "bCAPITAL LETTER O WITH CIRCUMFLEX AND DOT BELOW"),
   (0x1ED9, "bSMALL LETTER O WITH CIRCUMFLEX AND DOT BELOW"),
   (0x1EDA, "bCAPITAL LETTER O WITH HORN AND ACUTEbSMALL LETTER O WITH HORN AND ACUTE"),
   (0x1EDC, "bCAPITAL LETTER O WITH HORN AND GRAVEbSMALL LETTER O WITH HORN AND GRAVE"),
   (0x1EDE, "bCAPITAL LETTER O WITH HORN AND HOOK ABOVE"),
   (0x1EDF, "bSMALL LETTER O WITH HORN AND HOOK ABOVEbCAPITAL LETTER O WITH HORN AND TILDE"),
   (0x1EE1, "bSMALL LETTER O WITH HORN AND TILDEbCAPITAL LETTER O WITH HORN AND DOT BELOW"),
   (0x1EE3, "bSMALL LETTER O WITH HORN AND DOT BELOWbCAPITAL LETTER U WITH DOT BELOW"),
   (0x1EE5, "bSMALL LETTER U WITH DOT BELOWbCAPITAL LETTER U WITH HOOK ABOVE"),
   (0x1EE7, "bSMALL LETTER U WITH HOOK ABOVEbCAPITAL LETTER U WITH HORN AND ACUTE"),
   (0x1EE9, "bSMALL LETTER U WITH HORN AND ACUTEbCAPITAL LETTER U WITH HORN AND GRAVE"),
   (0x1EEB, "bSMALL LETTER U WITH HORN AND GRAVEbCAPITAL LETTER U WITH HORN AND HOOK ABOVE"),
   (0x1EED, "bSMALL LETTER U WITH HORN AND HOOK ABOVEbCAPITAL LETTER U WITH HORN AND TILDE"),
   (0x1EEF, "bSMALL LETTER U WITH HORN AND TILDEbCAPITAL LETTER U WITH HORN AND DOT BELOW"),
   (0x1EF1, "bSMALL LETTER U WITH HORN AND DOT BELOWbCAPITAL LETTER Y WITH GRAVE"),
   (0x1EF3, "bSMALL LETTER Y WITH GRAVEbCAPITAL LETTER Y WITH DOT BELOW"),
   (0x1EF5, "bSMALL LETTER Y WITH DOT BELOWbCAPITAL LETTER Y WITH HOOK ABOVE"),
   (0x1EF7, "bSMALL LETTER Y WITH HOOK ABOVEbCAPITAL LETTER Y WITH TILDE"),
   (0x1EF9, "bSMALL LETTER Y WITH TILDEbCAPITAL LETTER MIDDLE-WELSH LL"),
   (0x1EFB, "bSMALL LETTER MIDDLE-WELSH LLbCAPITAL LETTER MIDDLE-WELSH V"),
   (0x1EFD, "bSMALL LETTER MIDDLE-WELSH VbCAPITAL LETTER Y WITH LOOP"),
   (0x1EFF, "bSMALL LETTER Y WITH LOOPaGREEK SMALL LETTER ALPHA WITH PSILIfDASIA"),
   (0x1F02, "fPSILI AND VARIAfDASIA AND VARIAfPSILI AND OXIAfDASIA AND OXIA"),
   (0x1F06, "fPSILI AND PERISPOMENIfDASIA AND PERISPOMENIbCAPITAL LETTER ALPHA WITH PSILI"),
   (0x1F09, "fDASIAfPSILI AND VARIAfDASIA AND VARIAfPSILI AND OXIAfDASIA AND OXIA"),
   (0x1F0E, "fPSILI AND PERISPOMENIfDASIA AND PERISPOMENIbSMALL LETTER EPSILON WITH PSILI"),
   (0x1F11, "fDASIAfPSILI AND VARIAfDASIA AND VARIAfPSILI AND OXIAfDASIA AND OXIA"),
   (0x1F18, "bCAPITAL LETTER EPSILON WITH PSILIfDASIAfPSILI AND VARIAfDASIA AND VARIA"),
   (0x1F1C, "fPSILI AND OXIAfDASIA AND OXIA"),
   (0x1F20, "bSMALL LETTER ETA WITH PSILIfDASIAfPSILI AND VARIAfDASIA AND VARIA"),
   (0x1F24, "fPSILI AND OXIAfDASIA AND OXIAfPSILI AND PERISPOMENIfDASIA AND PERISPOMENI"),
   (0x1F28, "bCAPITAL LETTER ETA WITH PSILIfDASIAfPSILI AND VARIAfDASIA AND VARIA"),
   (0x1F2C, "fPSILI AND OXIAfDASIA AND OXIAfPSILI AND PERISPOMENIfDASIA AND PERISPOMENI"),
   (0x1F30, "bSMALL LETTER IOTA WITH PSILIfDASIAfPSILI AND VARIAfDASIA AND VARIA"),
   (0x1F34, "fPSILI AND OXIAfDASIA AND OXIAfPSILI AND PERISPOMENIfDASIA AND PERISPOMENI"),
   (0x1F38, "bCAPITAL LETTER IOTA WITH PSILIfDASIAfPSILI AND VARIAfDASIA AND VARIA"),
   (0x1F3C, "fPSILI AND OXIAfDASIA AND OXIAfPSILI AND PERISPOMENIfDASIA AND PERISPOMENI"),
   (0x1F40, "bSMALL LETTER OMICRON WITH PSILIfDASIAfPSILI AND VARIAfDASIA AND VARIA"),
   (0x1F44, "fPSILI AND OXIAfDASIA AND OXIA"),
   (0x1F48, "bCAPITAL LETTER OMICRON WITH PSILIfDASIAfPSILI AND VARIAfDASIA AND VARIA"),
   (0x1F4C, "fPSILI AND OXIAfDASIA AND OXIA"),
   (0x1F50, "bSMALL LETTER UPSILON WITH PSILIfDASIAfPSILI AND VARIAfDASIA AND VARIA"),
   (0x1F54, "fPSILI AND OXIAfDASIA AND OXIAfPSILI AND PERISPOMENIfDASIA AND PERISPOMENI"),
   (0x1F59, "bCAPITAL LETTER UPSILON WITH DASIA"), (0x1F5B, "gAND VARIA"), (0x1F5D, "hOXIA"),
   (0x1F5F, "hPERISPOMENIbSMALL LETTER OMEGA WITH PSILIfDASIAfPSILI AND VARIA"),
   (0x1F63, "fDASIA AND VARIAfPSILI AND OXIAfDASIA AND OXIAfPSILI AND PERISPOMENI"),
   (0x1F67, "fDASIA AND PERISPOMENIbCAPITAL LETTER OMEGA WITH PSILIfDASIAfPSILI AND VARIA"),
   (0x1F6B, "fDASIA AND VARIAfPSILI AND OXIAfDASIA AND OXIAfPSILI AND PERISPOMENI"),
   (0x1F6F, "fDASIA AND PERISPOMENIbSMALL LETTER ALPHA WITH VARIAfOXIAdEPSILON WITH VARIA"),
   (0x1F73, "fOXIAdETA WITH VARIAfOXIAdIOTA WITH VARIAfOXIAdOMICRON WITH VARIAfOXIA"),
   (0x1F7A, "dUPSILON WITH VARIAfOXIAdOMEGA WITH VARIAfOXIA"),
   (0x1F80, "dALPHA WITH PSILI AND YPOGEGRAMMENIfDASIA AND YPOGEGRAMMENI"),
   (0x1F82, "fPSILI AND VARIA AND YPOGEGRAMMENIfDASIA AND VARIA AND YPOGEGRAMMENI"),
   (0x1F84, "fPSILI AND OXIA AND YPOGEGRAMMENIfDASIA AND OXIA AND YPOGEGRAMMENI"),
   (0x1F86, "fPSILI AND PERISPOMENI AND YPOGEGRAMMENI"),
   (0x1F87, "fDASIA AND PERISPOMENI AND YPOGEGRAMMENI"),
   (0x1F88, "bCAPITAL LETTER ALPHA WITH PSILI AND PROSGEGRAMMENIfDASIA AND PROSGEGRAMMENI"),
   (0x1F8A, "fPSILI AND VARIA AND PROSGEGRAMMENIfDASIA AND VARIA AND PROSGEGRAMMENI"),
   (0x1F8C, "fPSILI AND OXIA AND PROSGEGRAMMENIfDASIA AND OXIA AND PROSGEGRAMMENI"),
   (0x1F8E, "fPSILI AND PERISPOMENI AND PROSGEGRAMMENI"),
   (0x1F8F, "fDASIA AND PERISPOMENI AND PROSGEGRAMMENI"),
   (0x1F90, "bSMALL LETTER ETA WITH PSILI AND YPOGEGRAMMENIfDASIA AND YPOGEGRAMMENI"),
   (0x1F92, "fPSILI AND VARIA AND YPOGEGRAMMENIfDASIA AND VARIA AND YPOGEGRAMMENI"),
   (0x1F94, "fPSILI AND OXIA AND YPOGEGRAMMENIfDASIA AND OXIA AND YPOGEGRAMMENI"),
   (0x1F96, "fPSILI AND PERISPOMENI AND YPOGEGRAMMENI"),
   (0x1F97, "fDASIA AND PERISPOMENI AND YPOGEGRAMMENI"),
   (0x1F98, "bCAPITAL LETTER ETA WITH PSILI AND PROSGEGRAMMENIfDASIA AND PROSGEGRAMMENI"),
   (0x1F9A, "fPSILI AND VARIA AND PROSGEGRAMMENIfDASIA AND VARIA AND PROSGEGRAMMENI"),
   (0x1F9C, "fPSILI AND OXIA AND PROSGEGRAMMENIfDASIA AND OXIA AND PROSGEGRAMMENI"),
   (0x1F9E, "fPSILI AND PERISPOMENI AND PROSGEGRAMMENI"),
   (0x1F9F, "fDASIA AND PERISPOMENI AND PROSGEGRAMMENI"),
   (0x1FA0, "bSMALL LETTER OMEGA WITH PSILI AND YPOGEGRAMMENIfDASIA AND YPOGEGRAMMENI"),
   (0x1FA2, "fPSILI AND VARIA AND YPOGEGRAMMENIfDASIA AND VARIA AND YPOGEGRAMMENI"),
   (0x1FA4, "fPSILI AND OXIA AND YPOGEGRAMMENIfDASIA AND OXIA AND YPOGEGRAMMENI"),
   (0x1FA6, "fPSILI AND PERISPOMENI AND YPOGEGRAMMENI"),
   (0x1FA7, "fDASIA AND PERISPOMENI AND YPOGEGRAMMENI"),
   (0x1FA8, "bCAPITAL LETTER OMEGA WITH PSILI AND PROSGEGRAMMENIfDASIA AND PROSGEGRAMMENI"),
   (0x1FAA, "fPSILI AND VARIA AND PROSGEGRAMMENIfDASIA AND VARIA AND PROSGEGRAMMENI"),
   (0x1FAC, "fPSILI AND OXIA AND PROSGEGRAMMENIfDASIA AND OXIA AND PROSGEGRAMMENI"),
   (0x1FAE, "fPSILI AND PERISPOMENI AND PROSGEGRAMMENI"),
   (0x1FAF, "fDASIA AND PERISPOMENI AND PROSGEGRAMMENIbSMALL LETTER ALPHA WITH VRACHYfMACRON"),
   (0x1FB2, "fVARIA AND YPOGEGRAMMENIfYPOGEGRAMMENIfOXIA AND YPOGEGRAMMENI"),
   (0x1FB6, "fPERISPOMENIgAND YPOGEGRAMMENIbCAPITAL LETTER ALPHA WITH VRACHYfMACRONfVARIA"),
   (0x1FBB, "fOXIAfPROSGEGRAMMENIbKORONISbPROSGEGRAMMENIbPSILIbPERISPOMENI"),
   (0x1FC1, "bDIALYTIKA AND PERISPOMENIbSMALL LETTER ETA WITH VARIA AND YPOGEGRAMMENI"),
   (0x1FC3, "fYPOGEGRAMMENIfOXIA AND YPOGEGRAMMENI"),
   (0x1FC6, "fPERISPOMENIgAND YPOGEGRAMMENIbCAPITAL LETTER EPSILON WITH VARIAfOXIA"),
   (0x1FCA, "dETA WITH VARIAfOXIAfPROSGEGRAMMENIbPSILI AND VARIAdOXIAdPERISPOMENI"),
   (0x1FD0, "bSMALL LETTER IOTA WITH VRACHYfMACRONfDIALYTIKA AND VARIAhOXIA"),
   (0x1FD6, "fPERISPOMENIfDIALYTIKA AND PERISPOMENIbCAPITAL LETTER IOTA WITH VRACHYfMACRON"),
   (0x1FDA, "fVARIAfOXIA"),
   (0x1FDD, "bDASIA AND VARIAdOXIAdPERISPOMENIbSMALL LETTER UPSILON WITH VRACHYfMACRON"),
   (0x1FE2, "fDIALYTIKA AND VARIAhOXIAdRHO WITH PSILIfDASIAdUPSILON WITH PERISPOMENI"),
   (0x1FE7, "fDIALYTIKA AND PERISPOMENIbCAPITAL LETTER UPSILON WITH VRACHYfMACRONfVARIAfOXIA"),
   (0x1FEC, "dRHO WITH DASIAbDIALYTIKA AND VARIAdOXIAbVARIA"),
   (0x1FF2, "bSMALL LETTER OMEGA WITH VARIA AND YPOGEGRAMMENIfYPOGEGRAMMENI"),
   (0x1FF4, "fOXIA AND YPOGEGRAMMENI"),
   (0x1FF6, "fPERISPOMENIgAND YPOGEGRAMMENIbCAPITAL LETTER OMICRON WITH VARIAfOXIA"),
   (0x1FFA, "dOMEGA WITH VARIAfOXIAfPROSGEGRAMMENIbOXIAbDASIA")]

end Scriptlet.Text.CharacterNames
