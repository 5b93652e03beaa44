/-
# Names of characters from U+1E000 to U+E01EF

Further letters, game tiles, pictures and selectors.
-/

namespace Scriptlet.Text.CharacterNames

def pictures : List (Nat × String) :=
  [(0x1E000, "aCOMBINING GLAGOLITIC LETTER AZUdBUKYdVEDEdGLAGOLIdDOBROdYESTUdZHIVETE"),
   (0x1E008, "dZEMLJAdIZHEdINITIAL IZHEdIdDJERVIdKAKOdLJUDIJEdMYSLITEdNASHIdONUdPOKOJIdRITSI"),
   (0x1E014, "dSLOVOdTVRIDOdUKUdFRITUdHERU"), (0x1E01B, "dSHTAdTSIdCHRIVIdSHAdYERUdYERIdYATI"),
   (0x1E023, "dYUdSMALL YUS"), (0x1E026, "dYOdIOTATED SMALL YUSdBIG YUSdIOTATED BIG YUSdFITA"),
   (0x1E100, "aNYIAKENG PUACHUE HMONG LETTER MAeTSAeNTAeTAeHAeNAeXAeNKAeCAeLAeSAeZAeNCAeNTSA"),
   (0x1E10E, "eKAeDAeNYAeNRAeVAeNTXAeTXAeFAeRAeQAeYAeNQAePAeXYAeNPAeDLAeNPLAeHAHeMLAePLAeGA"),
   (0x1E123, "eRRAeAeAAeIeUeOeOOeEeEEeW"),
   (0x1E130, "dTONE-BdTONE-MdTONE-JdTONE-VdTONE-SdTONE-GdTONE-DdSIGN FOR PERSONfTHING"),
   (0x1E139, "fLOCATIONfANIMALfINVERTEBRATEeXW XWdSYLLABLE LENGTHENER"),
   (0x1E140, "dDIGIT ZEROeONEeTWOeTHREEeFOUReFIVEeSIXeSEVENeEIGHTeNINE"),
   (0x1E14E, "dLOGOGRAM NYAJdCIRCLED CA"),
   (0x1E290, "aTOTO LETTER PAcBAcTAcDAcKAcGAcMAcNAcNGAcSAcCHAcYAcWAcJAcHAcRAcLAcIcBREATHY I"),
   (0x1E2A3, "cIUcBREATHY IUcUcEcBREATHY EcEOcBREATHY EOcOcAEcBREATHY AEcAbSIGN RISING TONE"),
   (0x1E2C0, "aWANCHO LETTER AAcAcBAcCAcDAcGAcYAcPHAcLAcNAcPAcTAcTHAcFAcSAcSHAcJAcZAcWAcVAcKA"),
   (0x1E2D5, "cOcAUcRAcMAcKHAcHAcEcIcNGAcUcLLHAcTSAcTRAcONGcAANGcANGcINGcONcENcAANcNYAcUEN"),
   (0x1E2EB, "cYIHbTONE TUPcTUPNIcKOIcKOINIbDIGIT ZEROcONEcTWOcTHREEcFOURcFIVEcSIXcSEVEN"),
   (0x1E2F8, "cEIGHTcNINE"), (0x1E2FF, "bNGUN SIGN"),
   (0x1E7E0, "aETHIOPIC SYLLABLE HHYAcHHYUcHHYIcHHYAAcHHYEEcHHYEcHHYO"),
   (0x1E7E8, "cGURAGE HHWAcHHWIcHHWEEcHHWE"), (0x1E7ED, "cGURAGE MWIdMWEE"),
   (0x1E7F0, "dQWIdQWEEdQWEdBWIdBWEEdKWIdKWEEdKWEdGWIdGWEEdGWEdFWIdFWEEdPWIdPWEE"),
   (0x1E800, "aMENDE KIKAKUI SYLLABLE M001 KIdM002 KAdM003 KUdM065 KEEdM095 KEdM076 KOO"),
   (0x1E806, "dM048 KOdM179 KUAdM004 WIdM005 WAdM006 WUdM126 WEEdM118 WEdM114 WOOdM045 WO"),
   (0x1E80F, "dM194 WUIdM143 WEIdM061 WVIdM049 WVAdM139 WVEdM007 MINdM008 MANdM009 MUN"),
   (0x1E817, "dM059 MENdM094 MONdM154 MUANdM189 MUENdM010 BIdM011 BAdM012 BUdM150 BEEdM097 BE"),
   (0x1E820, "dM103 BOOdM138 BOdM013 IdM014 AdM015 UdM163 EEdM100 EdM165 OOdM147 OdM137 EI"),
   (0x1E82A, "dM131 INdM135 INdM195 ANdM178 ENdM019 SIdM020 SAdM021 SUdM162 SEEdM116 SE"),
   (0x1E833, "dM136 SOOdM079 SOdM196 SIAdM025 LIdM026 LAdM027 LUdM084 LEEdM073 LEdM054 LOO"),
   (0x1E83C, "dM153 LOdM110 LONG LEdM016 DIdM017 DAdM018 DUdM089 DEEdM180 DOOdM181 DOdM022 TI"),
   (0x1E845, "dM023 TAdM024 TUdM091 TEEdM055 TEdM104 TOOdM069 TOdM028 JIdM029 JAdM030 JU"),
   (0x1E84E, "dM157 JEEdM113 JEdM160 JOOdM063 JOdM175 LONG JOdM031 YIdM032 YAdM033 YU"),
   (0x1E856, "dM109 YEEdM080 YEdM141 YOOdM121 YOdM034 FIdM035 FAdM036 FUdM078 FEEdM075 FE"),
   (0x1E85F, "dM133 FOOdM088 FOdM197 FUAdM101 FANdM037 NINdM038 NANdM039 NUNdM117 NEN"),
   (0x1E867, "dM169 NONdM176 HIdM041 HAdM186 HUdM040 HEEdM096 HEdM042 HOOdM140 HOdM083 HEEI"),
   (0x1E870, "dM128 HOOUdM053 HINdM130 HANdM087 HUNdM052 HENdM193 HONdM046 HUANdM090 NGGI"),
   (0x1E878, "dM043 NGGAdM082 NGGUdM115 NGGEEdM146 NGGEdM156 NGGOOdM120 NGGOdM159 NGGAA"),
   (0x1E87F, "dM127 NGGUAdM086 LONG NGGEdM106 LONG NGGOOdM183 LONG NGGOdM155 GIdM111 GA"),
   (0x1E885, "dM168 GUdM190 GEEdM166 GUEIdM167 GUANdM184 NGENdM057 NGONdM177 NGUANdM068 PI"),
   (0x1E88D, "dM099 PAdM050 PUdM081 PEEdM051 PEdM102 POOdM066 POdM145 MBIdM062 MBAdM122 MBU"),
   (0x1E896, "dM047 MBEEdM188 MBEEdM072 MBEdM172 MBOOdM174 MBOdM187 MBUUdM161 LONG MBE"),
   (0x1E89D, "dM105 LONG MBOOdM142 LONG MBOdM132 KPIdM092 KPAdM074 KPUdM044 KPEEdM108 KPE"),
   (0x1E8A4, "dM112 KPOOdM158 KPOdM124 GBIdM056 GBAdM148 GBUdM093 GBEEdM107 GBEdM071 GBOO"),
   (0x1E8AC, "dM070 GBOdM171 RAdM123 NDIdM129 NDAdM125 NDUdM191 NDEEdM119 NDEdM067 NDOO"),
   (0x1E8B4, "dM064 NDOdM152 NJAdM192 NJUdM149 NJEEdM134 NJOOdM182 VIdM185 VAdM151 VU"),
   (0x1E8BC, "dM173 VEEdM085 VEdM144 VOOdM077 VOdM164 NYINdM058 NYANdM170 NYUNdM098 NYEN"),
   (0x1E8C4, "dM060 NYON"),
   (0x1E8C7, "cDIGIT ONEdTWOdTHREEdFOURdFIVEdSIXdSEVENdEIGHTdNINEcCOMBINING NUMBER TEENSeTENS"),
   (0x1E8D2, "eHUNDREDSeTHOUSANDSeTEN THOUSANDSeHUNDRED THOUSANDSeMILLIONS"),
   (0x1E900, "aADLAM CAPITAL LETTER ALIFdDAALIdLAAMdMIIMdBAdSINNYIIYHEdPEdBHEdRAdEdFAdIdOdDHA"),
   (0x1E90E, "dYHEdWAWdNUNdKAFdYAdUdJIIMdCHIdHAdQAAFdGAdNYAdTUdNHAdVAdKHAdGBEdZALdKPOdSHA"),
   (0x1E922, "bSMALL LETTER ALIFdDAALIdLAAMdMIIMdBAdSINNYIIYHEdPEdBHEdRAdEdFAdIdOdDHAdYHEdWAW"),
   (0x1E932, "dNUNdKAFdYAdUdJIIMdCHIdHAdQAAFdGAdNYAdTUdNHAdVAdKHAdGBEdZALdKPOdSHA"),
   (0x1E944, "bALIF LENGTHENERbVOWEL LENGTHENERbGEMINATION MARKbHAMZAbCONSONANT MODIFIER"),
   (0x1E949, "bGEMINATE CONSONANT MODIFIERbNUKTAbNASALIZATION MARK"),
   (0x1E950, "bDIGIT ZEROcONEcTWOcTHREEcFOURcFIVEcSIXcSEVENcEIGHTcNINE"),
   (0x1E95E, "bINITIAL EXCLAMATION MARKcQUESTION MARK"),
   (0x1EC71, "aINDIC SIYAQ NUMBER ONEdTWOdTHREEdFOURdFIVEdSIXdSEVENdEIGHTdNINEdTENdTWENTY"),
   (0x1EC7C, "dTHIRTYdFORTYdFIFTYdSIXTYdSEVENTYdEIGHTYdNINETYdONE HUNDREDdTWO HUNDRED"),
   (0x1EC85, "dTHREE HUNDREDdFOUR HUNDREDdFIVE HUNDREDdSIX HUNDREDdSEVEN HUNDRED"),
   (0x1EC8A, "dEIGHT HUNDREDdNINE HUNDREDdONE THOUSANDdTWO THOUSANDdTHREE THOUSAND"),
   (0x1EC8F, "dFOUR THOUSANDdFIVE THOUSANDdSIX THOUSANDdSEVEN THOUSANDdEIGHT THOUSAND"),
   (0x1EC94, "dNINE THOUSANDdTEN THOUSANDdTWENTY THOUSANDdTHIRTY THOUSANDdFORTY THOUSAND"),
   (0x1EC99, "dFIFTY THOUSANDdSIXTY THOUSANDdSEVENTY THOUSANDdEIGHTY THOUSANDdNINETY THOUSAND"),
   (0x1EC9E, "dLAKHdLAKHANcLAKH MARKcNUMBER KARORdKARORANdPREFIXED ONEeTWOeTHREEeFOUReFIVE"),
   (0x1ECA8, "eSIXeSEVENeEIGHTeNINEcPLACEHOLDERcFRACTION ONE QUARTEReHALFdTHREE QUARTERS"),
   (0x1ECB0, "cRUPEE MARKcNUMBER ALTERNATE ONEeTWOeTEN THOUSANDcALTERNATE LAKH MARK"),
   (0x1ED01, "aOTTOMAN SIYAQ NUMBER ONEdTWOdTHREEdFOURdFIVEdSIXdSEVENdEIGHTdNINEdTENdTWENTY"),
   (0x1ED0C, "dTHIRTYdFORTYdFIFTYdSIXTYdSEVENTYdEIGHTYdNINETYdONE HUNDREDdTWO HUNDRED"),
   (0x1ED15, "dTHREE HUNDREDdFOUR HUNDREDdFIVE HUNDREDdSIX HUNDREDdSEVEN HUNDRED"),
   (0x1ED1A, "dEIGHT HUNDREDdNINE HUNDREDdONE THOUSANDdTWO THOUSANDdTHREE THOUSAND"),
   (0x1ED1F, "dFOUR THOUSANDdFIVE THOUSANDdSIX THOUSANDdSEVEN THOUSANDdEIGHT THOUSAND"),
   (0x1ED24, "dNINE THOUSANDdTEN THOUSANDdTWENTY THOUSANDdTHIRTY THOUSANDdFORTY THOUSAND"),
   (0x1ED29, "dFIFTY THOUSANDdSIXTY THOUSANDdSEVENTY THOUSANDdEIGHTY THOUSANDdNINETY THOUSAND"),
   (0x1ED2E, "cMARRATANcALTERNATE NUMBER TWOeTHREEeFOUReFIVEeSIXeSEVENeEIGHTeNINEeTEN"),
   (0x1ED38, "eFOUR HUNDREDeSIX HUNDREDeTWO THOUSANDeTEN THOUSANDcFRACTION ONE HALFeSIXTH"),
   (0x1EE00, "aARABIC MATHEMATICAL ALEFcBEHcJEEMcDAL"),
   (0x1EE05, "cWAWcZAINcHAHcTAHcYEHcKAFcLAMcMEEMcNOONcSEENcAINcFEHcSADcQAFcREHcSHEENcTEHcTHEH"),
   (0x1EE17, "cKHAHcTHALcDADcZAHcGHAINcDOTLESS BEHdNOONdFEHdQAF"), (0x1EE21, "cINITIAL BEHdJEEM"),
   (0x1EE24, "dHEH"), (0x1EE27, "dHAH"), (0x1EE29, "dYEHdKAFdLAMdMEEMdNOONdSEENdAINdFEHdSADdQAF"),
   (0x1EE34, "dSHEENdTEHdTHEHdKHAH"), (0x1EE39, "dDAD"), (0x1EE3B, "dGHAIN"),
   (0x1EE42, "cTAILED JEEM"), (0x1EE47, "dHAH"), (0x1EE49, "dYEH"), (0x1EE4B, "dLAM"),
   (0x1EE4D, "dNOONdSEENdAIN"), (0x1EE51, "dSADdQAF"), (0x1EE54, "dSHEEN"), (0x1EE57, "dKHAH"),
   (0x1EE59, "dDAD"), (0x1EE5B, "dGHAIN"), (0x1EE5D, "dDOTLESS NOON"), (0x1EE5F, "eQAF"),
   (0x1EE61, "cSTRETCHED BEHdJEEM"), (0x1EE64, "dHEH"), (0x1EE67, "dHAHdTAHdYEHdKAF"),
   (0x1EE6C, "dMEEMdNOONdSEENdAINdFEHdSADdQAF"), (0x1EE74, "dSHEENdTEHdTHEHdKHAH"),
   (0x1EE79, "dDADdZAHdGHAINdDOTLESS BEH"), (0x1EE7E, "eFEH"),
   (0x1EE80, "cLOOPED ALEFdBEHdJEEMdDALdHEHdWAWdZAINdHAHdTAHdYEH"),
   (0x1EE8B, "dLAMdMEEMdNOONdSEENdAINdFEHdSADdQAFdREHdSHEENdTEHdTHEHdKHAHdTHALdDADdZAHdGHAIN"),
   (0x1EEA1, "cDOUBLE-STRUCK BEHdJEEMdDAL"), (0x1EEA5, "dWAWdZAINdHAHdTAHdYEH"),
   (0x1EEAB, "dLAMdMEEMdNOONdSEENdAINdFEHdSADdQAFdREHdSHEENdTEHdTHEHdKHAHdTHALdDADdZAHdGHAIN"),
   (0x1EEF0, "cOPERATOR MEEM WITH HAH WITH TATWEELdHAH WITH DAL"),
   (0x1F000, "aMAHJONG TILE EAST WINDcSOUTH WINDcWEST WINDcNORTH WINDcRED DRAGONcGREEN DRAGON"),
   (0x1F006, "cWHITE DRAGONcONE OF CHARACTERScTWO OF CHARACTERScTHREE OF CHARACTERS"),
   (0x1F00A, "cFOUR OF CHARACTERScFIVE OF CHARACTERScSIX OF CHARACTERScSEVEN OF CHARACTERS"),
   (0x1F00E, "cEIGHT OF CHARACTERScNINE OF CHARACTERScONE OF BAMBOOScTWO OF BAMBOOS"),
   (0x1F012, "cTHREE OF BAMBOOScFOUR OF BAMBOOScFIVE OF BAMBOOScSIX OF BAMBOOS"),
   (0x1F016, "cSEVEN OF BAMBOOScEIGHT OF BAMBOOScNINE OF BAMBOOScONE OF CIRCLES"),
   (0x1F01A, "cTWO OF CIRCLEScTHREE OF CIRCLEScFOUR OF CIRCLEScFIVE OF CIRCLEScSIX OF CIRCLES"),
   (0x1F01F, "cSEVEN OF CIRCLEScEIGHT OF CIRCLEScNINE OF CIRCLEScPLUMcORCHIDcBAMBOO"),
   (0x1F025, "cCHRYSANTHEMUMcSPRINGcSUMMERcAUTUMNcWINTERcJOKERcBACK"),
   (0x1F030, "aDOMINO TILE HORIZONTAL BACKcHORIZONTAL-00-00cHORIZONTAL-00-01cHORIZONTAL-00-02"),
   (0x1F034, "cHORIZONTAL-00-03cHORIZONTAL-00-04cHORIZONTAL-00-05cHORIZONTAL-00-06"),
   (0x1F038, "cHORIZONTAL-01-00cHORIZONTAL-01-01cHORIZONTAL-01-02cHORIZONTAL-01-03"),
   (0x1F03C, "cHORIZONTAL-01-04cHORIZONTAL-01-05cHORIZONTAL-01-06cHORIZONTAL-02-00"),
   (0x1F040, "cHORIZONTAL-02-01cHORIZONTAL-02-02cHORIZONTAL-02-03cHORIZONTAL-02-04"),
   (0x1F044, "cHORIZONTAL-02-05cHORIZONTAL-02-06cHORIZONTAL-03-00cHORIZONTAL-03-01"),
   (0x1F048, "cHORIZONTAL-03-02cHORIZONTAL-03-03cHORIZONTAL-03-04cHORIZONTAL-03-05"),
   (0x1F04C, "cHORIZONTAL-03-06cHORIZONTAL-04-00cHORIZONTAL-04-01cHORIZONTAL-04-02"),
   (0x1F050, "cHORIZONTAL-04-03cHORIZONTAL-04-04cHORIZONTAL-04-05cHORIZONTAL-04-06"),
   (0x1F054, "cHORIZONTAL-05-00cHORIZONTAL-05-01cHORIZONTAL-05-02cHORIZONTAL-05-03"),
   (0x1F058, "cHORIZONTAL-05-04cHORIZONTAL-05-05cHORIZONTAL-05-06cHORIZONTAL-06-00"),
   (0x1F05C, "cHORIZONTAL-06-01cHORIZONTAL-06-02cHORIZONTAL-06-03cHORIZONTAL-06-04"),
   (0x1F060, "cHORIZONTAL-06-05cHORIZONTAL-06-06cVERTICAL BACKcVERTICAL-00-00cVERTICAL-00-01"),
   (0x1F065, "cVERTICAL-00-02cVERTICAL-00-03cVERTICAL-00-04cVERTICAL-00-05cVERTICAL-00-06"),
   (0x1F06A, "cVERTICAL-01-00cVERTICAL-01-01cVERTICAL-01-02cVERTICAL-01-03cVERTICAL-01-04"),
   (0x1F06F, "cVERTICAL-01-05cVERTICAL-01-06cVERTICAL-02-00cVERTICAL-02-01cVERTICAL-02-02"),
   (0x1F074, "cVERTICAL-02-03cVERTICAL-02-04cVERTICAL-02-05cVERTICAL-02-06cVERTICAL-03-00"),
   (0x1F079, "cVERTICAL-03-01cVERTICAL-03-02cVERTICAL-03-03cVERTICAL-03-04cVERTICAL-03-05"),
   (0x1F07E, "cVERTICAL-03-06cVERTICAL-04-00cVERTICAL-04-01cVERTICAL-04-02cVERTICAL-04-03"),
   (0x1F083, "cVERTICAL-04-04cVERTICAL-04-05cVERTICAL-04-06cVERTICAL-05-00cVERTICAL-05-01"),
   (0x1F088, "cVERTICAL-05-02cVERTICAL-05-03cVERTICAL-05-04cVERTICAL-05-05cVERTICAL-05-06"),
   (0x1F08D, "cVERTICAL-06-00cVERTICAL-06-01cVERTICAL-06-02cVERTICAL-06-03cVERTICAL-06-04"),
   (0x1F092, "cVERTICAL-06-05cVERTICAL-06-06"),
   (0x1F0A0, "aPLAYING CARD BACKcACE OF SPADEScTWO OF SPADEScTHREE OF SPADEScFOUR OF SPADES"),
   (0x1F0A5, "cFIVE OF SPADEScSIX OF SPADEScSEVEN OF SPADEScEIGHT OF SPADEScNINE OF SPADES"),
   (0x1F0AA, "cTEN OF SPADEScJACK OF SPADEScKNIGHT OF SPADEScQUEEN OF SPADEScKING OF SPADES"),
   (0x1F0B1, "cACE OF HEARTScTWO OF HEARTScTHREE OF HEARTScFOUR OF HEARTScFIVE OF HEARTS"),
   (0x1F0B6, "cSIX OF HEARTScSEVEN OF HEARTScEIGHT OF HEARTScNINE OF HEARTScTEN OF HEARTS"),
   (0x1F0BB, "cJACK OF HEARTScKNIGHT OF HEARTScQUEEN OF HEARTScKING OF HEARTScRED JOKER"),
   (0x1F0C1, "cACE OF DIAMONDScTWO OF DIAMONDScTHREE OF DIAMONDScFOUR OF DIAMONDS"),
   (0x1F0C5, "cFIVE OF DIAMONDScSIX OF DIAMONDScSEVEN OF DIAMONDScEIGHT OF DIAMONDS"),
   (0x1F0C9, "cNINE OF DIAMONDScTEN OF DIAMONDScJACK OF DIAMONDScKNIGHT OF DIAMONDS"),
   (0x1F0CD, "cQUEEN OF DIAMONDScKING OF DIAMONDScBLACK JOKER"),
   (0x1F0D1, "cACE OF CLUBScTWO OF CLUBScTHREE OF CLUBScFOUR OF CLUBScFIVE OF CLUBS"),
   (0x1F0D6, "cSIX OF CLUBScSEVEN OF CLUBScEIGHT OF CLUBScNINE OF CLUBScTEN OF CLUBS"),
   (0x1F0DB, "cJACK OF CLUBScKNIGHT OF CLUBScQUEEN OF CLUBScKING OF CLUBScWHITE JOKERcFOOL"),
   (0x1F0E1, "cTRUMP-1cTRUMP-2cTRUMP-3cTRUMP-4cTRUMP-5cTRUMP-6cTRUMP-7cTRUMP-8cTRUMP-9"),
   (0x1F0EA, "cTRUMP-10cTRUMP-11cTRUMP-12cTRUMP-13cTRUMP-14cTRUMP-15cTRUMP-16cTRUMP-17"),
   (0x1F0F2, "cTRUMP-18cTRUMP-19cTRUMP-20cTRUMP-21"),
   (0x1F100, "aDIGIT ZERO FULL STOPcCOMMAbONE COMMAbTWO COMMAbTHREE COMMAbFOUR COMMA"),
   (0x1F106, "bFIVE COMMAbSIX COMMAbSEVEN COMMAbEIGHT COMMAbNINE COMMA"),
   (0x1F10B, "aDINGBAT CIRCLED SANS-SERIF DIGIT ZERObNEGATIVE CIRCLED SANS-SERIF DIGIT ZERO"),
   (0x1F10D, "aCIRCLED ZERO WITH SLASHbANTICLOCKWISE ARROW"),
   (0x1F10F, "bDOLLAR SIGN WITH OVERLAID BACKSLASHaPARENTHESIZED LATIN CAPITAL LETTER AeBeCeD"),
   (0x1F114, "eEeFeGeHeIeJeKeLeMeNeOePeQeReSeTeUeVeWeXeYeZ"),
   (0x1F12A, "aTORTOISE SHELL BRACKETED LATIN CAPITAL LETTER S"),
   (0x1F12B, "aCIRCLED ITALIC LATIN CAPITAL LETTER CfRbCDbWZaCOPYLEFT SYMBOL"),
   (0x1F130, "aSQUARED LATIN CAPITAL LETTER AeBeCeDeEeFeGeHeIeJeKeLeMeNeOePeQeReSeTeUeVeWeXeY"),
   (0x1F149, "eZbHVbMVbSDbSSbPPVbWCaNEGATIVE CIRCLED LATIN CAPITAL LETTER AfBfCfDfEfFfGfHfIfJ"),
   (0x1F15A, "fKfLfMfNfOfPfQfRfSfTfUfVfWfXfYfZaRAISED MC SIGNbMD SIGNbMR SIGNaCIRCLED CC"),
   (0x1F16E, "bC WITH OVERLAID BACKSLASHbHUMAN FIGUREaNEGATIVE SQUARED LATIN CAPITAL LETTER A"),
   (0x1F171, "fBfCfDfEfFfGfHfIfJfKfLfMfNfOfPfQfRfSfTfUfVfWfXfYfZ"),
   (0x1F18A, "aCROSSED NEGATIVE SQUARED LATIN CAPITAL LETTER PaNEGATIVE SQUARED ICcPAcSAcAB"),
   (0x1F18F, "cWCaSQUARE DJaSQUARED CLbCOOLbFREEbIDbNEWbNGbOKbSOSbUP WITH EXCLAMATION MARKbVS"),
   (0x1F19B, "bTHREE DbSECOND SCREENbTWO KbFOUR KbEIGHT KbFIVE POINT ONEbSEVEN POINT ONE"),
   (0x1F1A2, "bTWENTY-TWO POINT TWObSIXTY PbONE HUNDRED TWENTY PbLATIN SMALL LETTER DbHCbHDR"),
   (0x1F1A8, "bHI-RESbLOSSLESSbSHVbUHDbVODaMASK WORK SYMBOL"),
   (0x1F1E6, "aREGIONAL INDICATOR SYMBOL LETTER AeBeCeDeEeFeGeHeIeJeKeLeMeNeOePeQeReSeTeUeVeW"),
   (0x1F1FD, "eXeYeZaSQUARE HIRAGANA HOKAaSQUARED KATAKANA KOKOcSA"),
   (0x1F210, "bCJK UNIFIED IDEOGRAPH-624BdIDEOGRAPH-5B57dIDEOGRAPH-53CCbKATAKANA DE"),
   (0x1F214, "bCJK UNIFIED IDEOGRAPH-4E8CdIDEOGRAPH-591AdIDEOGRAPH-89E3dIDEOGRAPH-5929"),
   (0x1F218, "dIDEOGRAPH-4EA4dIDEOGRAPH-6620dIDEOGRAPH-7121dIDEOGRAPH-6599dIDEOGRAPH-524D"),
   (0x1F21D, "dIDEOGRAPH-5F8CdIDEOGRAPH-518DdIDEOGRAPH-65B0dIDEOGRAPH-521DdIDEOGRAPH-7D42"),
   (0x1F222, "dIDEOGRAPH-751FdIDEOGRAPH-8CA9dIDEOGRAPH-58F0dIDEOGRAPH-5439dIDEOGRAPH-6F14"),
   (0x1F227, "dIDEOGRAPH-6295dIDEOGRAPH-6355dIDEOGRAPH-4E00dIDEOGRAPH-4E09dIDEOGRAPH-904A"),
   (0x1F22C, "dIDEOGRAPH-5DE6dIDEOGRAPH-4E2DdIDEOGRAPH-53F3dIDEOGRAPH-6307dIDEOGRAPH-8D70"),
   (0x1F231, "dIDEOGRAPH-6253dIDEOGRAPH-7981dIDEOGRAPH-7A7AdIDEOGRAPH-5408dIDEOGRAPH-6E80"),
   (0x1F236, "dIDEOGRAPH-6709dIDEOGRAPH-6708dIDEOGRAPH-7533dIDEOGRAPH-5272dIDEOGRAPH-55B6"),
   (0x1F23B, "dIDEOGRAPH-914D"),
   (0x1F240, "aTORTOISE SHELL BRACKETED CJK UNIFIED IDEOGRAPH-672CfIDEOGRAPH-4E09"),
   (0x1F242, "fIDEOGRAPH-4E8CfIDEOGRAPH-5B89fIDEOGRAPH-70B9fIDEOGRAPH-6253fIDEOGRAPH-76D7"),
   (0x1F247, "fIDEOGRAPH-52DDfIDEOGRAPH-6557"), (0x1F250, "aCIRCLED IDEOGRAPH ADVANTAGEcACCEPT"),
   (0x1F260, "aROUNDED SYMBOL FOR FUdLUdSHOUdXIdSHUANGXIdCAI"),
   (0x1F300, "aCYCLONEaFOGGYaCLOSED UMBRELLAaNIGHT WITH STARSaSUNRISE OVER MOUNTAINSaSUNRISE"),
   (0x1F306, "aCITYSCAPE AT DUSKaSUNSET OVER BUILDINGSaRAINBOWaBRIDGE AT NIGHTaWATER WAVE"),
   (0x1F30B, "aVOLCANOaMILKY WAYaEARTH GLOBE EUROPE-AFRICAcAMERICAScASIA-AUSTRALIA"),
   (0x1F310, "aGLOBE WITH MERIDIANSaNEW MOON SYMBOLaWAXING CRESCENT MOON SYMBOL"),
   (0x1F313, "aFIRST QUARTER MOON SYMBOLaWAXING GIBBOUS MOON SYMBOLaFULL MOON SYMBOL"),
   (0x1F316, "aWANING GIBBOUS MOON SYMBOLaLAST QUARTER MOON SYMBOL"),
   (0x1F318, "aWANING CRESCENT MOON SYMBOLaCRESCENT MOONaNEW MOON WITH FACE"),
   (0x1F31B, "aFIRST QUARTER MOON WITH FACEaLAST QUARTER MOON WITH FACEaFULL MOON WITH FACE"),
   (0x1F31E, "aSUN WITH FACEaGLOWING STARaSHOOTING STARaTHERMOMETERaBLACK DROPLETaWHITE SUN"),
   (0x1F324, "cWITH SMALL CLOUDcBEHIND CLOUDeWITH RAINaCLOUD WITH RAINcSNOWcLIGHTNINGcTORNADO"),
   (0x1F32B, "aFOGaWIND BLOWING FACEaHOT DOGaTACOaBURRITOaCHESTNUTaSEEDLINGaEVERGREEN TREE"),
   (0x1F333, "aDECIDUOUS TREEaPALM TREEaCACTUSaHOT PEPPERaTULIPaCHERRY BLOSSOMaROSEaHIBISCUS"),
   (0x1F33B, "aSUNFLOWERaBLOSSOMaEAR OF MAIZEcRICEaHERBaFOUR LEAF CLOVERaMAPLE LEAF"),
   (0x1F342, "aFALLEN LEAFaLEAF FLUTTERING IN WINDaMUSHROOMaTOMATOaAUBERGINEaGRAPESaMELON"),
   (0x1F349, "aWATERMELONaTANGERINEaLEMONaBANANAaPINEAPPLEaRED APPLEaGREEN APPLEaPEARaPEACH"),
   (0x1F352, "aCHERRIESaSTRAWBERRYaHAMBURGERaSLICE OF PIZZAaMEAT ON BONEaPOULTRY LEG"),
   (0x1F358, "aRICE CRACKERbBALLaCOOKED RICEaCURRY AND RICEaSTEAMING BOWLaSPAGHETTIaBREAD"),
   (0x1F35F, "aFRENCH FRIESaROASTED SWEET POTATOaDANGOaODENaSUSHIaFRIED SHRIMP"),
   (0x1F365, "aFISH CAKE WITH SWIRL DESIGNaSOFT ICE CREAMaSHAVED ICEaICE CREAMaDOUGHNUT"),
   (0x1F36A, "aCOOKIEaCHOCOLATE BARaCANDYaLOLLIPOPaCUSTARDaHONEY POTaSHORTCAKEaBENTO BOX"),
   (0x1F372, "aPOT OF FOODaCOOKINGaFORK AND KNIFEaTEACUP WITHOUT HANDLEaSAKE BOTTLE AND CUP"),
   (0x1F377, "aWINE GLASSaCOCKTAIL GLASSaTROPICAL DRINKaBEER MUGaCLINKING BEER MUGS"),
   (0x1F37C, "aBABY BOTTLEaFORK AND KNIFE WITH PLATEaBOTTLE WITH POPPING CORKaPOPCORNaRIBBON"),
   (0x1F381, "aWRAPPED PRESENTaBIRTHDAY CAKEaJACK-O-LANTERNaCHRISTMAS TREEaFATHER CHRISTMAS"),
   (0x1F386, "aFIREWORKSaFIREWORK SPARKLERaBALLOONaPARTY POPPERaCONFETTI BALLaTANABATA TREE"),
   (0x1F38C, "aCROSSED FLAGSaPINE DECORATIONaJAPANESE DOLLSaCARP STREAMERaWIND CHIME"),
   (0x1F391, "aMOON VIEWING CEREMONYaSCHOOL SATCHELaGRADUATION CAPaHEART WITH TIP ON THE LEFT"),
   (0x1F395, "aBOUQUET OF FLOWERSaMILITARY MEDALaREMINDER RIBBONaMUSICAL KEYBOARD WITH JACKS"),
   (0x1F399, "aSTUDIO MICROPHONEaLEVEL SLIDERaCONTROL KNOBSaBEAMED ASCENDING MUSICAL NOTES"),
   (0x1F39D, "bDESCENDING MUSICAL NOTESaFILM FRAMESaADMISSION TICKETSaCAROUSEL HORSE"),
   (0x1F3A1, "aFERRIS WHEELaROLLER COASTERaFISHING POLE AND FISHaMICROPHONEaMOVIE CAMERA"),
   (0x1F3A6, "aCINEMAaHEADPHONEaARTIST PALETTEaTOP HATaCIRCUS TENTaTICKETaCLAPPER BOARD"),
   (0x1F3AD, "aPERFORMING ARTSaVIDEO GAMEaDIRECT HITaSLOT MACHINEaBILLIARDSaGAME DIEaBOWLING"),
   (0x1F3B4, "aFLOWER PLAYING CARDSaMUSICAL NOTEaMULTIPLE MUSICAL NOTESaSAXOPHONEaGUITAR"),
   (0x1F3B9, "aMUSICAL KEYBOARDaTRUMPETaVIOLINaMUSICAL SCOREaRUNNING SHIRT WITH SASH"),
   (0x1F3BE, "aTENNIS RACQUET AND BALLaSKI AND SKI BOOTaBASKETBALL AND HOOPaCHEQUERED FLAG"),
   (0x1F3C2, "aSNOWBOARDERaRUNNERaSURFERaSPORTS MEDALaTROPHYaHORSE RACINGaAMERICAN FOOTBALL"),
   (0x1F3C9, "aRUGBY FOOTBALLaSWIMMERaWEIGHT LIFTERaGOLFERaRACING MOTORCYCLEbCAR"),
   (0x1F3CF, "aCRICKET BAT AND BALLaVOLLEYBALLaFIELD HOCKEY STICK AND BALL"),
   (0x1F3D2, "aICE HOCKEY STICK AND PUCKaTABLE TENNIS PADDLE AND BALLaSNOW CAPPED MOUNTAIN"),
   (0x1F3D5, "aCAMPINGaBEACH WITH UMBRELLAaBUILDING CONSTRUCTIONaHOUSE BUILDINGSaCITYSCAPE"),
   (0x1F3DA, "aDERELICT HOUSE BUILDINGaCLASSICAL BUILDINGaDESERTbISLANDaNATIONAL PARKaSTADIUM"),
   (0x1F3E0, "aHOUSE BUILDINGbWITH GARDENaOFFICE BUILDINGaJAPANESE POST OFFICE"),
   (0x1F3E4, "aEUROPEAN POST OFFICEaHOSPITALaBANKaAUTOMATED TELLER MACHINEaHOTELaLOVE HOTEL"),
   (0x1F3EA, "aCONVENIENCE STOREaSCHOOLaDEPARTMENT STOREaFACTORYaIZAKAYA LANTERN"),
   (0x1F3EF, "aJAPANESE CASTLEaEUROPEAN CASTLEaWHITE PENNANTaBLACK PENNANTaWAVING WHITE FLAG"),
   (0x1F3F4, "bBLACK FLAGaROSETTEaBLACK ROSETTEaLABELaBADMINTON RACQUET AND SHUTTLECOCK"),
   (0x1F3F9, "aBOW AND ARROWaAMPHORAaEMOJI MODIFIER FITZPATRICK TYPE-1-2dTYPE-3dTYPE-4dTYPE-5"),
   (0x1F3FF, "dTYPE-6aRATaMOUSEaOXaWATER BUFFALOaCOWaTIGERaLEOPARDaRABBITaCATaDRAGON"),
   (0x1F40A, "aCROCODILEaWHALEaSNAILaSNAKEaHORSEaRAMaGOATaSHEEPaMONKEYaROOSTERaCHICKENaDOG"),
   (0x1F416, "aPIGaBOARaELEPHANTaOCTOPUSaSPIRAL SHELLaBUGaANTaHONEYBEEaLADY BEETLEaFISH"),
   (0x1F420, "aTROPICAL FISHaBLOWFISHaTURTLEaHATCHING CHICKaBABY CHICK"),
   (0x1F425, "aFRONT-FACING BABY CHICKaBIRDaPENGUINaKOALAaPOODLEaDROMEDARY CAMEL"),
   (0x1F42B, "aBACTRIAN CAMELaDOLPHINaMOUSE FACEaCOW FACEaTIGER FACEaRABBIT FACEaCAT FACE"),
   (0x1F432, "aDRAGON FACEaSPOUTING WHALEaHORSE FACEaMONKEY FACEaDOG FACEaPIG FACEaFROG FACE"),
   (0x1F439, "aHAMSTER FACEaWOLF FACEaBEAR FACEaPANDA FACEaPIG NOSEaPAW PRINTSaCHIPMUNKaEYES"),
   (0x1F441, "aEYEaEARaNOSEaMOUTHaTONGUEaWHITE UP POINTING BACKHAND INDEX"),
   (0x1F447, "bDOWN POINTING BACKHAND INDEXbLEFT POINTING BACKHAND INDEX"),
   (0x1F449, "bRIGHT POINTING BACKHAND INDEXaFISTED HAND SIGNaWAVING HAND SIGNaOK HAND SIGN"),
   (0x1F44D, "aTHUMBS UP SIGNbDOWN SIGNaCLAPPING HANDS SIGNaOPEN HANDS SIGNaCROWNaWOMANS HAT"),
   (0x1F453, "aEYEGLASSESaNECKTIEaT-SHIRTaJEANSaDRESSaKIMONOaBIKINIaWOMANS CLOTHESaPURSE"),
   (0x1F45C, "aHANDBAGaPOUCHaMANS SHOEaATHLETIC SHOEaHIGH-HEELED SHOEaWOMANS SANDALbBOOTS"),
   (0x1F463, "aFOOTPRINTSaBUST IN SILHOUETTEaBUSTS IN SILHOUETTEaBOYaGIRLaMANaWOMANaFAMILY"),
   (0x1F46B, "aMAN AND WOMAN HOLDING HANDSaTWO MEN HOLDING HANDSbWOMEN HOLDING HANDS"),
   (0x1F46E, "aPOLICE OFFICERaWOMAN WITH BUNNY EARSaBRIDE WITH VEILaPERSON WITH BLOND HAIR"),
   (0x1F472, "aMAN WITH GUA PI MAOcTURBANaOLDER MANbWOMANaBABYaCONSTRUCTION WORKERaPRINCESS"),
   (0x1F479, "aJAPANESE OGREbGOBLINaGHOSTaBABY ANGELaEXTRATERRESTRIAL ALIENaALIEN MONSTERaIMP"),
   (0x1F480, "aSKULLaINFORMATION DESK PERSONaGUARDSMANaDANCERaLIPSTICKaNAIL POLISH"),
   (0x1F486, "aFACE MASSAGEaHAIRCUTaBARBER POLEaSYRINGEaPILLaKISS MARKaLOVE LETTERaRING"),
   (0x1F48E, "aGEM STONEaKISSaBOUQUETaCOUPLE WITH HEARTaWEDDINGaBEATING HEARTaBROKEN HEART"),
   (0x1F495, "aTWO HEARTSaSPARKLING HEARTaGROWING HEARTaHEART WITH ARROWaBLUE HEART"),
   (0x1F49A, "aGREEN HEARTaYELLOW HEARTaPURPLE HEARTaHEART WITH RIBBONaREVOLVING HEARTS"),
   (0x1F49F, "aHEART DECORATIONaDIAMOND SHAPE WITH A DOT INSIDEaELECTRIC LIGHT BULB"),
   (0x1F4A2, "aANGER SYMBOLaBOMBaSLEEPING SYMBOLaCOLLISION SYMBOLaSPLASHING SWEAT SYMBOL"),
   (0x1F4A7, "aDROPLETaDASH SYMBOLaPILE OF POOaFLEXED BICEPSaDIZZY SYMBOLaSPEECH BALLOON"),
   (0x1F4AD, "aTHOUGHT BALLOONaWHITE FLOWERaHUNDRED POINTS SYMBOLaMONEY BAGaCURRENCY EXCHANGE"),
   (0x1F4B2, "aHEAVY DOLLAR SIGNaCREDIT CARDaBANKNOTE WITH YEN SIGNcDOLLAR SIGNcEURO SIGN"),
   (0x1F4B7, "cPOUND SIGNaMONEY WITH WINGSaCHART WITH UPWARDS TREND AND YEN SIGNaSEAT"),
   (0x1F4BB, "aPERSONAL COMPUTERaBRIEFCASEaMINIDISCaFLOPPY DISKaOPTICAL DISCaDVDaFILE FOLDER"),
   (0x1F4C2, "aOPEN FILE FOLDERaPAGE WITH CURLbFACING UPaCALENDARaTEAR-OFF CALENDAR"),
   (0x1F4C7, "aCARD INDEXaCHART WITH UPWARDS TRENDcDOWNWARDS TRENDaBAR CHARTaCLIPBOARD"),
   (0x1F4CC, "aPUSHPINaROUND PUSHPINaPAPERCLIPaSTRAIGHT RULERaTRIANGULAR RULERaBOOKMARK TABS"),
   (0x1F4D2, "aLEDGERaNOTEBOOKbWITH DECORATIVE COVERaCLOSED BOOKaOPEN BOOKaGREEN BOOK"),
   (0x1F4D8, "aBLUE BOOKaORANGE BOOKaBOOKSaNAME BADGEaSCROLLaMEMOaTELEPHONE RECEIVERaPAGER"),
   (0x1F4E0, "aFAX MACHINEaSATELLITE ANTENNAaPUBLIC ADDRESS LOUDSPEAKERaCHEERING MEGAPHONE"),
   (0x1F4E4, "aOUTBOX TRAYaINBOX TRAYaPACKAGEaE-MAIL SYMBOLaINCOMING ENVELOPE"),
   (0x1F4E9, "aENVELOPE WITH DOWNWARDS ARROW ABOVEaCLOSED MAILBOX WITH LOWERED FLAG"),
   (0x1F4EB, "dRAISED FLAGaOPEN MAILBOX WITH RAISED FLAGdLOWERED FLAGaPOSTBOXaPOSTAL HORN"),
   (0x1F4F0, "aNEWSPAPERaMOBILE PHONEcWITH RIGHTWARDS ARROW AT LEFTaVIBRATION MODE"),
   (0x1F4F4, "aMOBILE PHONE OFFaNO MOBILE PHONESaANTENNA WITH BARSaCAMERAbWITH FLASH"),
   (0x1F4F9, "aVIDEO CAMERAaTELEVISIONaRADIOaVIDEOCASSETTEaFILM PROJECTORaPORTABLE STEREO"),
   (0x1F4FF, "aPRAYER BEADSaTWISTED RIGHTWARDS ARROWS"),
   (0x1F501, "aCLOCKWISE RIGHTWARDS AND LEFTWARDS OPEN CIRCLE ARROWShWITH CIRCLED ONE OVERLAY"),
   (0x1F503, "bDOWNWARDS AND UPWARDS OPEN CIRCLE ARROWS"),
   (0x1F504, "aANTICLOCKWISE DOWNWARDS AND UPWARDS OPEN CIRCLE ARROWSaLOW BRIGHTNESS SYMBOL"),
   (0x1F506, "aHIGH BRIGHTNESS SYMBOLaSPEAKER WITH CANCELLATION STROKEaSPEAKER"),
   (0x1F509, "bWITH ONE SOUND WAVEcTHREE SOUND WAVESaBATTERYaELECTRIC PLUG"),
   (0x1F50D, "aLEFT-POINTING MAGNIFYING GLASSaRIGHT-POINTING MAGNIFYING GLASS"),
   (0x1F50F, "aLOCK WITH INK PENaCLOSED LOCK WITH KEYaKEYaLOCKaOPEN LOCKaBELL"),
   (0x1F515, "bWITH CANCELLATION STROKEaBOOKMARKaLINK SYMBOLaRADIO BUTTON"),
   (0x1F519, "aBACK WITH LEFTWARDS ARROW ABOVEaEND WITH LEFTWARDS ARROW ABOVE"),
   (0x1F51B, "aON WITH EXCLAMATION MARK WITH LEFT RIGHT ARROW ABOVE"),
   (0x1F51C, "aSOON WITH RIGHTWARDS ARROW ABOVEaTOP WITH UPWARDS ARROW ABOVE"),
   (0x1F51E, "aNO ONE UNDER EIGHTEEN SYMBOLaKEYCAP TENaINPUT SYMBOL FOR LATIN CAPITAL LETTERS"),
   (0x1F521, "eSMALL LETTERSdNUMBERSdSYMBOLSdLATIN LETTERSaFIREaELECTRIC TORCHaWRENCHaHAMMER"),
   (0x1F529, "aNUT AND BOLTaHOCHOaPISTOLaMICROSCOPEaTELESCOPEaCRYSTAL BALL"),
   (0x1F52F, "aSIX POINTED STAR WITH MIDDLE DOTaJAPANESE SYMBOL FOR BEGINNERaTRIDENT EMBLEM"),
   (0x1F532, "aBLACK SQUARE BUTTONaWHITE SQUARE BUTTONaLARGE RED CIRCLEbBLUE CIRCLE"),
   (0x1F536, "bORANGE DIAMONDbBLUE DIAMONDaSMALL ORANGE DIAMONDbBLUE DIAMOND"),
   (0x1F53A, "aUP-POINTING RED TRIANGLEaDOWN-POINTING RED TRIANGLE"),
   (0x1F53C, "aUP-POINTING SMALL RED TRIANGLEaDOWN-POINTING SMALL RED TRIANGLE"),
   (0x1F53E, "aLOWER RIGHT SHADOWED WHITE CIRCLEaUPPER RIGHT SHADOWED WHITE CIRCLE"),
   (0x1F540, "aCIRCLED CROSS POMMEEaCROSS POMMEE WITH HALF-CIRCLE BELOWbPOMMEE"),
   (0x1F543, "aNOTCHED LEFT SEMICIRCLE WITH THREE DOTSbRIGHT SEMICIRCLE WITH THREE DOTS"),
   (0x1F545, "aSYMBOL FOR MARKS CHAPTERaWHITE LATIN CROSSaHEAVY LATIN CROSSaCELTIC CROSS"),
   (0x1F549, "aOM SYMBOLaDOVE OF PEACEaKAABAaMOSQUEaSYNAGOGUEaMENORAH WITH NINE BRANCHES"),
   (0x1F54F, "aBOWL OF HYGIEIAaCLOCK FACE ONE OCLOCKcTWO OCLOCKcTHREE OCLOCKcFOUR OCLOCK"),
   (0x1F554, "cFIVE OCLOCKcSIX OCLOCKcSEVEN OCLOCKcEIGHT OCLOCKcNINE OCLOCKcTEN OCLOCK"),
   (0x1F55A, "cELEVEN OCLOCKcTWELVE OCLOCKcONE-THIRTYcTWO-THIRTYcTHREE-THIRTYcFOUR-THIRTY"),
   (0x1F560, "cFIVE-THIRTYcSIX-THIRTYcSEVEN-THIRTYcEIGHT-THIRTYcNINE-THIRTYcTEN-THIRTY"),
   (0x1F566, "cELEVEN-THIRTYcTWELVE-THIRTYaRIGHT SPEAKERcWITH ONE SOUND WAVE"),
   (0x1F56A, "dTHREE SOUND WAVESaBULLHORNbWITH SOUND WAVESaRINGING BELLaBOOKaCANDLE"),
   (0x1F570, "aMANTELPIECE CLOCKaBLACK SKULL AND CROSSBONESaNO PIRACYaHOLE"),
   (0x1F574, "aMAN IN BUSINESS SUIT LEVITATINGaSLEUTH OR SPYaDARK SUNGLASSESaSPIDERbWEB"),
   (0x1F579, "aJOYSTICKaMAN DANCINGaLEFT HAND TELEPHONE RECEIVERaTELEPHONE RECEIVER WITH PAGE"),
   (0x1F57D, "aRIGHT HAND TELEPHONE RECEIVERaWHITE TOUCHTONE TELEPHONE"),
   (0x1F57F, "aBLACK TOUCHTONE TELEPHONEaTELEPHONE ON TOP OF MODEMaCLAMSHELL MOBILE PHONE"),
   (0x1F582, "aBACK OF ENVELOPEaSTAMPED ENVELOPEaENVELOPE WITH LIGHTNINGaFLYING ENVELOPE"),
   (0x1F586, "aPEN OVER STAMPED ENVELOPEaLINKED PAPERCLIPSaBLACK PUSHPINaLOWER LEFT PENCIL"),
   (0x1F58A, "cBALLPOINT PENcFOUNTAIN PENcPAINTBRUSHcCRAYONaLEFT WRITING HAND"),
   (0x1F58F, "aTURNED OK HAND SIGNaRAISED HAND WITH FINGERS SPLAYED"),
   (0x1F591, "aREVERSED RAISED HAND WITH FINGERS SPLAYEDbTHUMBS UP SIGNcDOWN SIGN"),
   (0x1F594, "bVICTORY HANDbHAND WITH MIDDLE FINGER EXTENDED"),
   (0x1F596, "aRAISED HAND WITH PART BETWEEN MIDDLE AND RING FINGERS"),
   (0x1F597, "aWHITE DOWN POINTING LEFT HAND INDEXaSIDEWAYS WHITE LEFT POINTING INDEX"),
   (0x1F599, "cRIGHT POINTING INDEXbBLACK LEFT POINTING INDEXcRIGHT POINTING INDEX"),
   (0x1F59C, "aBLACK LEFT POINTING BACKHAND INDEXbRIGHT POINTING BACKHAND INDEX"),
   (0x1F59E, "aSIDEWAYS WHITE UP POINTING INDEXcDOWN POINTING INDEXbBLACK UP POINTING INDEX"),
   (0x1F5A1, "cDOWN POINTING INDEXaBLACK UP POINTING BACKHAND INDEX"),
   (0x1F5A3, "bDOWN POINTING BACKHAND INDEXbHEARTaDESKTOP COMPUTERaKEYBOARD AND MOUSE"),
   (0x1F5A7, "aTHREE NETWORKED COMPUTERSaPRINTERaPOCKET CALCULATOR"),
   (0x1F5AA, "aBLACK HARD SHELL FLOPPY DISKaWHITE HARD SHELL FLOPPY DISK"),
   (0x1F5AC, "aSOFT SHELL FLOPPY DISKaTAPE CARTRIDGEaWIRED KEYBOARDaONE BUTTON MOUSE"),
   (0x1F5B0, "aTWO BUTTON MOUSEaTHREE BUTTON MOUSEaTRACKBALLaOLD PERSONAL COMPUTERaHARD DISK"),
   (0x1F5B5, "aSCREENaPRINTER ICONaFAX ICONaOPTICAL DISC ICONaDOCUMENT WITH TEXTdAND PICTURE"),
   (0x1F5BB, "cPICTUREaFRAME WITH PICTUREcTILEScAN XaBLACK FOLDERaFOLDERaOPEN FOLDER"),
   (0x1F5C2, "aCARD INDEX DIVIDERSbFILE BOXaFILE CABINETaEMPTY NOTEcPAGEcPADaNOTEbPAGEbPAD"),
   (0x1F5CB, "aEMPTY DOCUMENTbPAGEbPAGESaDOCUMENTaPAGEaPAGESaWASTEBASKETaSPIRAL NOTE PAD"),
   (0x1F5D3, "bCALENDAR PADaDESKTOP WINDOWaMINIMIZEaMAXIMIZEaOVERLAP"),
   (0x1F5D8, "aCLOCKWISE RIGHT AND LEFT SEMICIRCLE ARROWSaCANCELLATION X"),
   (0x1F5DA, "aINCREASE FONT SIZE SYMBOLaDECREASE FONT SIZE SYMBOLaCOMPRESSIONaOLD KEY"),
   (0x1F5DE, "aROLLED-UP NEWSPAPERaPAGE WITH CIRCLED TEXTaSTOCK CHARTaDAGGER KNIFEaLIPS"),
   (0x1F5E3, "aSPEAKING HEAD IN SILHOUETTEaTHREE RAYS ABOVEcBELOWcLEFTcRIGHT"),
   (0x1F5E8, "aLEFT SPEECH BUBBLEaRIGHT SPEECH BUBBLEaTWO SPEECH BUBBLESaTHREE SPEECH BUBBLES"),
   (0x1F5EC, "aLEFT THOUGHT BUBBLEaRIGHT THOUGHT BUBBLEaLEFT ANGER BUBBLEaRIGHT ANGER BUBBLE"),
   (0x1F5F0, "aMOOD BUBBLEaLIGHTNING MOOD BUBBLEbMOODaBALLOT BOX WITH BALLOTbSCRIPT X"),
   (0x1F5F5, "bBOX WITH SCRIPT XbBOLD SCRIPT XbBOX WITH BOLD SCRIPT XaLIGHT CHECK MARK"),
   (0x1F5F9, "aBALLOT BOX WITH BOLD CHECKaWORLD MAPaMOUNT FUJIaTOKYO TOWERaSTATUE OF LIBERTY"),
   (0x1F5FE, "aSILHOUETTE OF JAPANaMOYAIaGRINNING FACEcWITH SMILING EYES"),
   (0x1F602, "aFACE WITH TEARS OF JOYaSMILING FACE WITH OPEN MOUTHfAND SMILING EYES"),
   (0x1F605, "gCOLD SWEATgTIGHTLY-CLOSED EYESdHALOdHORNSaWINKING FACE"),
   (0x1F60A, "aSMILING FACE WITH SMILING EYESaFACE SAVOURING DELICIOUS FOODaRELIEVED FACE"),
   (0x1F60D, "aSMILING FACE WITH HEART-SHAPED EYESdSUNGLASSESaSMIRKING FACEaNEUTRAL FACE"),
   (0x1F611, "aEXPRESSIONLESS FACEaUNAMUSED FACEaFACE WITH COLD SWEATaPENSIVE FACE"),
   (0x1F615, "aCONFUSED FACEaCONFOUNDED FACEaKISSING FACEaFACE THROWING A KISS"),
   (0x1F619, "aKISSING FACE WITH SMILING EYESdCLOSED EYESaFACE WITH STUCK-OUT TONGUE"),
   (0x1F61C, "eAND WINKING EYEfTIGHTLY-CLOSED EYESaDISAPPOINTED FACEaWORRIED FACEaANGRY FACE"),
   (0x1F621, "aPOUTING FACEaCRYING FACEaPERSEVERING FACEaFACE WITH LOOK OF TRIUMPH"),
   (0x1F625, "aDISAPPOINTED BUT RELIEVED FACEaFROWNING FACE WITH OPEN MOUTHaANGUISHED FACE"),
   (0x1F628, "aFEARFUL FACEaWEARY FACEaSLEEPY FACEaTIRED FACEaGRIMACING FACE"),
   (0x1F62D, "aLOUDLY CRYING FACEaFACE WITH OPEN MOUTHaHUSHED FACE"),
   (0x1F630, "aFACE WITH OPEN MOUTH AND COLD SWEATbSCREAMING IN FEARaASTONISHED FACE"),
   (0x1F633, "aFLUSHED FACEaSLEEPING FACEaDIZZY FACEaFACE WITHOUT MOUTHbWITH MEDICAL MASK"),
   (0x1F638, "aGRINNING CAT FACE WITH SMILING EYESaCAT FACE WITH TEARS OF JOY"),
   (0x1F63A, "aSMILING CAT FACE WITH OPEN MOUTHeHEART-SHAPED EYESaCAT FACE WITH WRY SMILE"),
   (0x1F63D, "aKISSING CAT FACE WITH CLOSED EYESaPOUTING CAT FACEaCRYING CAT FACE"),
   (0x1F640, "aWEARY CAT FACEaSLIGHTLY FROWNING FACEbSMILING FACEaUPSIDE-DOWN FACE"),
   (0x1F644, "aFACE WITH ROLLING EYEScNO GOOD GESTUREcOK GESTUREaPERSON BOWING DEEPLY"),
   (0x1F648, "aSEE-NO-EVIL MONKEYaHEAR-NO-EVIL MONKEYaSPEAK-NO-EVIL MONKEY"),
   (0x1F64B, "aHAPPY PERSON RAISING ONE HANDaPERSON RAISING BOTH HANDS IN CELEBRATION"),
   (0x1F64D, "bFROWNINGbWITH POUTING FACEcFOLDED HANDSaNORTH WEST POINTING LEAF"),
   (0x1F651, "aSOUTH WEST POINTING LEAFaNORTH EAST POINTING LEAFaSOUTH EAST POINTING LEAF"),
   (0x1F654, "aTURNED NORTH WEST POINTING LEAFbSOUTH WEST POINTING LEAF"),
   (0x1F656, "bNORTH EAST POINTING LEAFbSOUTH EAST POINTING LEAF"),
   (0x1F658, "aNORTH WEST POINTING VINE LEAFaSOUTH WEST POINTING VINE LEAF"),
   (0x1F65A, "aNORTH EAST POINTING VINE LEAFaSOUTH EAST POINTING VINE LEAF"),
   (0x1F65C, "aHEAVY NORTH WEST POINTING VINE LEAFbSOUTH WEST POINTING VINE LEAF"),
   (0x1F65E, "bNORTH EAST POINTING VINE LEAFbSOUTH EAST POINTING VINE LEAF"),
   (0x1F660, "aNORTH WEST POINTING BUDaSOUTH WEST POINTING BUDaNORTH EAST POINTING BUD"),
   (0x1F663, "aSOUTH EAST POINTING BUDaHEAVY NORTH WEST POINTING BUDbSOUTH WEST POINTING BUD"),
   (0x1F666, "bNORTH EAST POINTING BUDbSOUTH EAST POINTING BUDaHOLLOW QUILT SQUARE ORNAMENT"),
   (0x1F669, "eIN BLACK SQUAREaSOLID QUILT SQUARE ORNAMENTeIN BLACK SQUAREaLEFTWARDS ROCKET"),
   (0x1F66D, "aUPWARDS ROCKETaRIGHTWARDS ROCKETaDOWNWARDS ROCKETaSCRIPT LIGATURE ET ORNAMENT"),
   (0x1F671, "aHEAVY SCRIPT LIGATURE ET ORNAMENTaLIGATURE OPEN ET ORNAMENT"),
   (0x1F673, "aHEAVY LIGATURE OPEN ET ORNAMENTbAMPERSAND ORNAMENTaSWASH AMPERSAND ORNAMENT"),
   (0x1F676, "aSANS-SERIF HEAVY DOUBLE TURNED COMMA QUOTATION MARK ORNAMENT"),
   (0x1F677, "dCOMMA QUOTATION MARK ORNAMENTcLOW DOUBLE COMMA QUOTATION MARK ORNAMENT"),
   (0x1F679, "aHEAVY INTERROBANG ORNAMENTaSANS-SERIF INTERROBANG ORNAMENT"),
   (0x1F67B, "aHEAVY SANS-SERIF INTERROBANG ORNAMENTaVERY HEAVY SOLIDUScREVERSE SOLIDUS"),
   (0x1F67E, "aCHECKER BOARDaREVERSE CHECKER BOARDaROCKETaHELICOPTERaSTEAM LOCOMOTIVE"),
   (0x1F683, "aRAILWAY CARaHIGH-SPEED TRAINcWITH BULLET NOSEaTRAINaMETROaLIGHT RAILaSTATION"),
   (0x1F68A, "aTRAMbCARaBUSaONCOMING BUSaTROLLEYBUSaBUS STOPaMINIBUSaAMBULANCEaFIRE ENGINE"),
   (0x1F693, "aPOLICE CARaONCOMING POLICE CARaTAXIaONCOMING TAXIaAUTOMOBILE"),
   (0x1F698, "aONCOMING AUTOMOBILEaRECREATIONAL VEHICLEaDELIVERY TRUCKaARTICULATED LORRY"),
   (0x1F69C, "aTRACTORaMONORAILaMOUNTAIN RAILWAYaSUSPENSION RAILWAYaMOUNTAIN CABLEWAY"),
   (0x1F6A1, "aAERIAL TRAMWAYaSHIPaROWBOATaSPEEDBOATaHORIZONTAL TRAFFIC LIGHT"),
   (0x1F6A6, "aVERTICAL TRAFFIC LIGHTaCONSTRUCTION SIGNaPOLICE CARS REVOLVING LIGHT"),
   (0x1F6A9, "aTRIANGULAR FLAG ON POSTaDOORaNO ENTRY SIGNaSMOKING SYMBOLaNO SMOKING SYMBOL"),
   (0x1F6AE, "aPUT LITTER IN ITS PLACE SYMBOLaDO NOT LITTER SYMBOLaPOTABLE WATER SYMBOL"),
   (0x1F6B1, "aNON-POTABLE WATER SYMBOLaBICYCLEaNO BICYCLESaBICYCLISTaMOUNTAIN BICYCLIST"),
   (0x1F6B6, "aPEDESTRIANaNO PEDESTRIANSaCHILDREN CROSSINGaMENS SYMBOLaWOMENS SYMBOLaRESTROOM"),
   (0x1F6BC, "aBABY SYMBOLaTOILETaWATER CLOSETaSHOWERaBATHaBATHTUBaPASSPORT CONTROLaCUSTOMS"),
   (0x1F6C4, "aBAGGAGE CLAIMaLEFT LUGGAGEaTRIANGLE WITH ROUNDED CORNERSaPROHIBITED SIGN"),
   (0x1F6C8, "aCIRCLED INFORMATION SOURCEaBOYS SYMBOLaGIRLS SYMBOLaCOUCH AND LAMP"),
   (0x1F6CC, "aSLEEPING ACCOMMODATIONaSHOPPING BAGSaBELLHOP BELLaBEDaPLACE OF WORSHIP"),
   (0x1F6D1, "aOCTAGONAL SIGNaSHOPPING TROLLEYaSTUPAaPAGODAaHINDU TEMPLEaHUTaELEVATOR"),
   (0x1F6DD, "aPLAYGROUND SLIDEaWHEELaRING BUOYaHAMMER AND WRENCHaSHIELDaOIL DRUMaMOTORWAY"),
   (0x1F6E4, "aRAILWAY TRACKaMOTOR BOATaUP-POINTING MILITARY AIRPLANEbAIRPLANEbSMALL AIRPLANE"),
   (0x1F6E9, "aSMALL AIRPLANEaNORTHEAST-POINTING AIRPLANEaAIRPLANE DEPARTUREbARRIVING"),
   (0x1F6F0, "aSATELLITEaONCOMING FIRE ENGINEaDIESEL LOCOMOTIVEaPASSENGER SHIPaSCOOTER"),
   (0x1F6F5, "aMOTOR SCOOTERaCANOEaSLEDaFLYING SAUCERaSKATEBOARDaAUTO RICKSHAWaPICKUP TRUCK"),
   (0x1F6FC, "aROLLER SKATE"),
   (0x1F700, "aALCHEMICAL SYMBOL FOR QUINTESSENCEdAIRdFIREdEARTHdWATERdAQUAFORTISdAQUA REGIA"),
   (0x1F707, "eREGIA-2eVITAEeVITAE-2dVINEGARdVINEGAR-2dVINEGAR-3dSULFURdPHILOSOPHERS SULFUR"),
   (0x1F70F, "dBLACK SULFURdMERCURY SUBLIMATEeSUBLIMATE-2eSUBLIMATE-3dCINNABARdSALTdNITRE"),
   (0x1F716, "dVITRIOLdVITRIOL-2dROCK SALTeSALT-2dGOLDdSILVERdIRON OREeORE-2dCROCUS OF IRON"),
   (0x1F71F, "dREGULUS OF IRONdCOPPER OREdIRON-COPPER OREdSUBLIMATE OF COPPER"),
   (0x1F723, "dCROCUS OF COPPERfCOPPER-2dCOPPER ANTIMONIATEdSALT OF COPPER ANTIMONIATE"),
   (0x1F727, "dSUBLIMATE OF SALT OF COPPERdVERDIGRISdTIN OREdLEAD OREdANTIMONY ORE"),
   (0x1F72C, "dSUBLIMATE OF ANTIMONYdSALT OF ANTIMONYdSUBLIMATE OF SALT OF ANTIMONY"),
   (0x1F72F, "dVINEGAR OF ANTIMONYdREGULUS OF ANTIMONYfANTIMONY-2dREGULUSdREGULUS-2dREGULUS-3"),
   (0x1F735, "dREGULUS-4dALKALIdALKALI-2dMARCASITEdSAL-AMMONIACdARSENICdREALGARdREALGAR-2"),
   (0x1F73D, "dAURIPIGMENTdBISMUTH OREdTARTARdTARTAR-2dQUICK LIMEdBORAXdBORAX-2dBORAX-3dALUM"),
   (0x1F746, "dOILdSPIRITdTINCTUREdGUMdWAXdPOWDERdCALXdTUTTYdCAPUT MORTUUMdSCEPTER OF JOVE"),
   (0x1F750, "dCADUCEUSdTRIDENTdSTARRED TRIDENTdLODESTONEdSOAPdURINEdHORSE DUNGdASHES"),
   (0x1F758, "dPOT ASHESdBRICKdPOWDERED BRICKdAMALGAMdSTRATUM SUPER STRATUMfSTRATUM-2"),
   (0x1F75E, "dSUBLIMATIONdPRECIPITATEdDISTILLdDISSOLVEdDISSOLVE-2dPURIFYdPUTREFACTION"),
   (0x1F765, "dCRUCIBLEdCRUCIBLE-2dCRUCIBLE-3dCRUCIBLE-4dCRUCIBLE-5dALEMBICdBATH OF MARY"),
   (0x1F76C, "fVAPOURSdRETORTdHOURdNIGHTdDAY-NIGHTdMONTHdHALF DRAMeOUNCE"),
   (0x1F780, "aBLACK LEFT-POINTING ISOSCELES RIGHT TRIANGLE"),
   (0x1F781, "bUP-POINTING ISOSCELES RIGHT TRIANGLEbRIGHT-POINTING ISOSCELES RIGHT TRIANGLE"),
   (0x1F783, "bDOWN-POINTING ISOSCELES RIGHT TRIANGLEbSLIGHTLY SMALL CIRCLE"),
   (0x1F785, "aMEDIUM BOLD WHITE CIRCLEaBOLD WHITE CIRCLEaHEAVY WHITE CIRCLE"),
   (0x1F788, "aVERY HEAVY WHITE CIRCLEaEXTREMELY HEAVY WHITE CIRCLE"),
   (0x1F78A, "aWHITE CIRCLE CONTAINING BLACK SMALL CIRCLEaROUND TARGETaBLACK TINY SQUARE"),
   (0x1F78D, "bSLIGHTLY SMALL SQUAREaLIGHT WHITE SQUAREaMEDIUM WHITE SQUAREaBOLD WHITE SQUARE"),
   (0x1F791, "aHEAVY WHITE SQUAREaVERY HEAVY WHITE SQUAREaEXTREMELY HEAVY WHITE SQUARE"),
   (0x1F794, "aWHITE SQUARE CONTAINING BLACK VERY SMALL SQUAREeMEDIUM SQUAREaSQUARE TARGET"),
   (0x1F797, "aBLACK TINY DIAMONDbVERY SMALL DIAMONDbMEDIUM SMALL DIAMOND"),
   (0x1F79A, "aWHITE DIAMOND CONTAINING BLACK VERY SMALL DIAMONDeMEDIUM DIAMOND"),
   (0x1F79C, "aDIAMOND TARGETaBLACK TINY LOZENGEbVERY SMALL LOZENGEbMEDIUM SMALL LOZENGE"),
   (0x1F7A0, "aWHITE LOZENGE CONTAINING BLACK SMALL LOZENGEaTHIN GREEK CROSS"),
   (0x1F7A2, "aLIGHT GREEK CROSSaMEDIUM GREEK CROSSaBOLD GREEK CROSSaVERY BOLD GREEK CROSS"),
   (0x1F7A6, "bHEAVY GREEK CROSSaEXTREMELY HEAVY GREEK CROSSaTHIN SALTIREaLIGHT SALTIRE"),
   (0x1F7AA, "aMEDIUM SALTIREaBOLD SALTIREaHEAVY SALTIREaVERY HEAVY SALTIRE"),
   (0x1F7AE, "aEXTREMELY HEAVY SALTIREaLIGHT FIVE SPOKED ASTERISKaMEDIUM FIVE SPOKED ASTERISK"),
   (0x1F7B1, "aBOLD FIVE SPOKED ASTERISKaHEAVY FIVE SPOKED ASTERISK"),
   (0x1F7B3, "aVERY HEAVY FIVE SPOKED ASTERISKaEXTREMELY HEAVY FIVE SPOKED ASTERISK"),
   (0x1F7B5, "aLIGHT SIX SPOKED ASTERISKaMEDIUM SIX SPOKED ASTERISKaBOLD SIX SPOKED ASTERISK"),
   (0x1F7B8, "aHEAVY SIX SPOKED ASTERISKaVERY HEAVY SIX SPOKED ASTERISK"),
   (0x1F7BA, "aEXTREMELY HEAVY SIX SPOKED ASTERISKaLIGHT EIGHT SPOKED ASTERISK"),
   (0x1F7BC, "aMEDIUM EIGHT SPOKED ASTERISKaBOLD EIGHT SPOKED ASTERISK"),
   (0x1F7BE, "aHEAVY EIGHT SPOKED ASTERISKaVERY HEAVY EIGHT SPOKED ASTERISK"),
   (0x1F7C0, "aLIGHT THREE POINTED BLACK STARaMEDIUM THREE POINTED BLACK STAR"),
   (0x1F7C2, "aTHREE POINTED BLACK STARaMEDIUM THREE POINTED PINWHEEL STAR"),
   (0x1F7C4, "aLIGHT FOUR POINTED BLACK STARaMEDIUM FOUR POINTED BLACK STAR"),
   (0x1F7C6, "aFOUR POINTED BLACK STARaMEDIUM FOUR POINTED PINWHEEL STAR"),
   (0x1F7C8, "aREVERSE LIGHT FOUR POINTED PINWHEEL STARaLIGHT FIVE POINTED BLACK STAR"),
   (0x1F7CA, "aHEAVY FIVE POINTED BLACK STARaMEDIUM SIX POINTED BLACK STAR"),
   (0x1F7CC, "aHEAVY SIX POINTED BLACK STARaSIX POINTED PINWHEEL STAR"),
   (0x1F7CE, "aMEDIUM EIGHT POINTED BLACK STARaHEAVY EIGHT POINTED BLACK STAR"),
   (0x1F7D0, "aVERY HEAVY EIGHT POINTED BLACK STARaHEAVY EIGHT POINTED PINWHEEL STAR"),
   (0x1F7D2, "aLIGHT TWELVE POINTED BLACK STARaHEAVY TWELVE POINTED BLACK STARdPINWHEEL STAR"),
   (0x1F7D5, "aCIRCLED TRIANGLEaNEGATIVE CIRCLED TRIANGLEaCIRCLED SQUARE"),
   (0x1F7D8, "aNEGATIVE CIRCLED SQUARE"),
   (0x1F7E0, "aLARGE ORANGE CIRCLEbYELLOW CIRCLEbGREEN CIRCLEbPURPLE CIRCLEbBROWN CIRCLE"),
   (0x1F7E5, "bRED SQUAREbBLUE SQUAREbORANGE SQUAREbYELLOW SQUAREbGREEN SQUAREbPURPLE SQUARE"),
   (0x1F7EB, "bBROWN SQUARE"), (0x1F7F0, "aHEAVY EQUALS SIGN"),
   (0x1F800, "aLEFTWARDS ARROW WITH SMALL TRIANGLE ARROWHEAD"),
   (0x1F801, "aUPWARDS ARROW WITH SMALL TRIANGLE ARROWHEAD"),
   (0x1F802, "aRIGHTWARDS ARROW WITH SMALL TRIANGLE ARROWHEAD"),
   (0x1F803, "aDOWNWARDS ARROW WITH SMALL TRIANGLE ARROWHEAD"),
   (0x1F804, "aLEFTWARDS ARROW WITH MEDIUM TRIANGLE ARROWHEAD"),
   (0x1F805, "aUPWARDS ARROW WITH MEDIUM TRIANGLE ARROWHEAD"),
   (0x1F806, "aRIGHTWARDS ARROW WITH MEDIUM TRIANGLE ARROWHEAD"),
   (0x1F807, "aDOWNWARDS ARROW WITH MEDIUM TRIANGLE ARROWHEAD"),
   (0x1F808, "aLEFTWARDS ARROW WITH LARGE TRIANGLE ARROWHEAD"),
   (0x1F809, "aUPWARDS ARROW WITH LARGE TRIANGLE ARROWHEAD"),
   (0x1F80A, "aRIGHTWARDS ARROW WITH LARGE TRIANGLE ARROWHEAD"),
   (0x1F80B, "aDOWNWARDS ARROW WITH LARGE TRIANGLE ARROWHEAD"),
   (0x1F810, "aLEFTWARDS ARROW WITH SMALL EQUILATERAL ARROWHEAD"),
   (0x1F811, "aUPWARDS ARROW WITH SMALL EQUILATERAL ARROWHEAD"),
   (0x1F812, "aRIGHTWARDS ARROW WITH SMALL EQUILATERAL ARROWHEAD"),
   (0x1F813, "aDOWNWARDS ARROW WITH SMALL EQUILATERAL ARROWHEAD"),
   (0x1F814, "aLEFTWARDS ARROW WITH EQUILATERAL ARROWHEAD"),
   (0x1F815, "aUPWARDS ARROW WITH EQUILATERAL ARROWHEAD"),
   (0x1F816, "aRIGHTWARDS ARROW WITH EQUILATERAL ARROWHEAD"),
   (0x1F817, "aDOWNWARDS ARROW WITH EQUILATERAL ARROWHEAD"),
   (0x1F818, "aHEAVY LEFTWARDS ARROW WITH EQUILATERAL ARROWHEAD"),
   (0x1F819, "bUPWARDS ARROW WITH EQUILATERAL ARROWHEAD"),
   (0x1F81A, "bRIGHTWARDS ARROW WITH EQUILATERAL ARROWHEAD"),
   (0x1F81B, "bDOWNWARDS ARROW WITH EQUILATERAL ARROWHEAD"),
   (0x1F81C, "bLEFTWARDS ARROW WITH LARGE EQUILATERAL ARROWHEAD"),
   (0x1F81D, "bUPWARDS ARROW WITH LARGE EQUILATERAL ARROWHEAD"),
   (0x1F81E, "bRIGHTWARDS ARROW WITH LARGE EQUILATERAL ARROWHEAD"),
   (0x1F81F, "bDOWNWARDS ARROW WITH LARGE EQUILATERAL ARROWHEAD"),
   (0x1F820, "aLEFTWARDS TRIANGLE-HEADED ARROW WITH NARROW SHAFT"),
   (0x1F821, "aUPWARDS TRIANGLE-HEADED ARROW WITH NARROW SHAFT"),
   (0x1F822, "aRIGHTWARDS TRIANGLE-HEADED ARROW WITH NARROW SHAFT"),
   (0x1F823, "aDOWNWARDS TRIANGLE-HEADED ARROW WITH NARROW SHAFT"),
   (0x1F824, "aLEFTWARDS TRIANGLE-HEADED ARROW WITH MEDIUM SHAFT"),
   (0x1F825, "aUPWARDS TRIANGLE-HEADED ARROW WITH MEDIUM SHAFT"),
   (0x1F826, "aRIGHTWARDS TRIANGLE-HEADED ARROW WITH MEDIUM SHAFT"),
   (0x1F827, "aDOWNWARDS TRIANGLE-HEADED ARROW WITH MEDIUM SHAFT"),
   (0x1F828, "aLEFTWARDS TRIANGLE-HEADED ARROW WITH BOLD SHAFT"),
   (0x1F829, "aUPWARDS TRIANGLE-HEADED ARROW WITH BOLD SHAFT"),
   (0x1F82A, "aRIGHTWARDS TRIANGLE-HEADED ARROW WITH BOLD SHAFT"),
   (0x1F82B, "aDOWNWARDS TRIANGLE-HEADED ARROW WITH BOLD SHAFT"),
   (0x1F82C, "aLEFTWARDS TRIANGLE-HEADED ARROW WITH HEAVY SHAFT"),
   (0x1F82D, "aUPWARDS TRIANGLE-HEADED ARROW WITH HEAVY SHAFT"),
   (0x1F82E, "aRIGHTWARDS TRIANGLE-HEADED ARROW WITH HEAVY SHAFT"),
   (0x1F82F, "aDOWNWARDS TRIANGLE-HEADED ARROW WITH HEAVY SHAFT"),
   (0x1F830, "aLEFTWARDS TRIANGLE-HEADED ARROW WITH VERY HEAVY SHAFT"),
   (0x1F831, "aUPWARDS TRIANGLE-HEADED ARROW WITH VERY HEAVY SHAFT"),
   (0x1F832, "aRIGHTWARDS TRIANGLE-HEADED ARROW WITH VERY HEAVY SHAFT"),
   (0x1F833, "aDOWNWARDS TRIANGLE-HEADED ARROW WITH VERY HEAVY SHAFT"),
   (0x1F834, "aLEFTWARDS FINGER-POST ARROWaUPWARDS FINGER-POST ARROW"),
   (0x1F836, "aRIGHTWARDS FINGER-POST ARROWaDOWNWARDS FINGER-POST ARROW"),
   (0x1F838, "aLEFTWARDS SQUARED ARROWaUPWARDS SQUARED ARROWaRIGHTWARDS SQUARED ARROW"),
   (0x1F83B, "aDOWNWARDS SQUARED ARROWaLEFTWARDS COMPRESSED ARROWaUPWARDS COMPRESSED ARROW"),
   (0x1F83E, "aRIGHTWARDS COMPRESSED ARROWaDOWNWARDS COMPRESSED ARROW"),
   (0x1F840, "aLEFTWARDS HEAVY COMPRESSED ARROWaUPWARDS HEAVY COMPRESSED ARROW"),
   (0x1F842, "aRIGHTWARDS HEAVY COMPRESSED ARROWaDOWNWARDS HEAVY COMPRESSED ARROW"),
   (0x1F844, "aLEFTWARDS HEAVY ARROWaUPWARDS HEAVY ARROWaRIGHTWARDS HEAVY ARROW"),
   (0x1F847, "aDOWNWARDS HEAVY ARROW"),
   (0x1F850, "aLEFTWARDS SANS-SERIF ARROWaUPWARDS SANS-SERIF ARROW"),
   (0x1F852, "aRIGHTWARDS SANS-SERIF ARROWaDOWNWARDS SANS-SERIF ARROW"),
   (0x1F854, "aNORTH WEST SANS-SERIF ARROWbEAST SANS-SERIF ARROWaSOUTH EAST SANS-SERIF ARROW"),
   (0x1F857, "bWEST SANS-SERIF ARROWaLEFT RIGHT SANS-SERIF ARROWaUP DOWN SANS-SERIF ARROW"),
   (0x1F860, "aWIDE-HEADED LEFTWARDS LIGHT BARB ARROWbUPWARDS LIGHT BARB ARROW"),
   (0x1F862, "bRIGHTWARDS LIGHT BARB ARROWbDOWNWARDS LIGHT BARB ARROW"),
   (0x1F864, "bNORTH WEST LIGHT BARB ARROWcEAST LIGHT BARB ARROWbSOUTH EAST LIGHT BARB ARROW"),
   (0x1F867, "cWEST LIGHT BARB ARROWbLEFTWARDS BARB ARROWbUPWARDS BARB ARROW"),
   (0x1F86A, "bRIGHTWARDS BARB ARROWbDOWNWARDS BARB ARROWbNORTH WEST BARB ARROW"),
   (0x1F86D, "cEAST BARB ARROWbSOUTH EAST BARB ARROWcWEST BARB ARROW"),
   (0x1F870, "bLEFTWARDS MEDIUM BARB ARROWbUPWARDS MEDIUM BARB ARROW"),
   (0x1F872, "bRIGHTWARDS MEDIUM BARB ARROWbDOWNWARDS MEDIUM BARB ARROW"),
   (0x1F874, "bNORTH WEST MEDIUM BARB ARROWcEAST MEDIUM BARB ARROW"),
   (0x1F876, "bSOUTH EAST MEDIUM BARB ARROWcWEST MEDIUM BARB ARROWbLEFTWARDS HEAVY BARB ARROW"),
   (0x1F879, "bUPWARDS HEAVY BARB ARROWbRIGHTWARDS HEAVY BARB ARROW"),
   (0x1F87B, "bDOWNWARDS HEAVY BARB ARROWbNORTH WEST HEAVY BARB ARROWcEAST HEAVY BARB ARROW"),
   (0x1F87E, "bSOUTH EAST HEAVY BARB ARROWcWEST HEAVY BARB ARROW"),
   (0x1F880, "bLEFTWARDS VERY HEAVY BARB ARROWbUPWARDS VERY HEAVY BARB ARROW"),
   (0x1F882, "bRIGHTWARDS VERY HEAVY BARB ARROWbDOWNWARDS VERY HEAVY BARB ARROW"),
   (0x1F884, "bNORTH WEST VERY HEAVY BARB ARROWcEAST VERY HEAVY BARB ARROW"),
   (0x1F886, "bSOUTH EAST VERY HEAVY BARB ARROWcWEST VERY HEAVY BARB ARROW"),
   (0x1F890, "aLEFTWARDS TRIANGLE ARROWHEADaUPWARDS TRIANGLE ARROWHEAD"),
   (0x1F892, "aRIGHTWARDS TRIANGLE ARROWHEADaDOWNWARDS TRIANGLE ARROWHEAD"),
   (0x1F894, "aLEFTWARDS WHITE ARROW WITHIN TRIANGLE ARROWHEAD"),
   (0x1F895, "aUPWARDS WHITE ARROW WITHIN TRIANGLE ARROWHEAD"),
   (0x1F896, "aRIGHTWARDS WHITE ARROW WITHIN TRIANGLE ARROWHEAD"),
   (0x1F897, "aDOWNWARDS WHITE ARROW WITHIN TRIANGLE ARROWHEAD"),
   (0x1F898, "aLEFTWARDS ARROW WITH NOTCHED TAILaUPWARDS ARROW WITH NOTCHED TAIL"),
   (0x1F89A, "aRIGHTWARDS ARROW WITH NOTCHED TAILaDOWNWARDS ARROW WITH NOTCHED TAIL"),
   (0x1F89C, "aHEAVY ARROW SHAFT WIDTH ONEeTWO THIRDSeONE HALFfTHIRD"),
   (0x1F8A0, "aLEFTWARDS BOTTOM-SHADED WHITE ARROWaRIGHTWARDS BOTTOM SHADED WHITE ARROW"),
   (0x1F8A2, "aLEFTWARDS TOP SHADED WHITE ARROWaRIGHTWARDS TOP SHADED WHITE ARROW"),
   (0x1F8A4, "aLEFTWARDS LEFT-SHADED WHITE ARROWaRIGHTWARDS RIGHT-SHADED WHITE ARROW"),
   (0x1F8A6, "aLEFTWARDS RIGHT-SHADED WHITE ARROWaRIGHTWARDS LEFT-SHADED WHITE ARROW"),
   (0x1F8A8, "aLEFTWARDS BACK-TILTED SHADOWED WHITE ARROW"),
   (0x1F8A9, "aRIGHTWARDS BACK-TILTED SHADOWED WHITE ARROW"),
   (0x1F8AA, "aLEFTWARDS FRONT-TILTED SHADOWED WHITE ARROW"),
   (0x1F8AB, "aRIGHTWARDS FRONT-TILTED SHADOWED WHITE ARROWaWHITE ARROW SHAFT WIDTH ONE"),
   (0x1F8AD, "eTWO THIRDS"),
   (0x1F8B0, "aARROW POINTING UPWARDS THEN NORTH WESTcRIGHTWARDS THEN CURVING SOUTH WEST"),
   (0x1F900, "aCIRCLED CROSS FORMEE WITH FOUR DOTSeTWO DOTScFORMEE"),
   (0x1F903, "aLEFT HALF CIRCLE WITH FOUR DOTSeTHREE DOTSeTWO DOTSeDOTcCIRCLE"),
   (0x1F908, "aDOWNWARD FACING HOOKcNOTCHED HOOKcHOOK WITH DOTcNOTCHED HOOK WITH DOT"),
   (0x1F90C, "aPINCHED FINGERSaWHITE HEARTaBROWN HEARTaPINCHING HANDaZIPPER-MOUTH FACE"),
   (0x1F911, "aMONEY-MOUTH FACEaFACE WITH THERMOMETERaNERD FACEaTHINKING FACE"),
   (0x1F915, "aFACE WITH HEAD-BANDAGEaROBOT FACEaHUGGING FACEaSIGN OF THE HORNSaCALL ME HAND"),
   (0x1F91A, "aRAISED BACK OF HANDaLEFT-FACING FISTaRIGHT-FACING FISTaHANDSHAKE"),
   (0x1F91E, "aHAND WITH INDEX AND MIDDLE FINGERS CROSSEDaI LOVE YOU HAND SIGN"),
   (0x1F920, "aFACE WITH COWBOY HATaCLOWN FACEaNAUSEATED FACEaROLLING ON THE FLOOR LAUGHING"),
   (0x1F924, "aDROOLING FACEaLYING FACEaFACE PALMaSNEEZING FACEaFACE WITH ONE EYEBROW RAISED"),
   (0x1F929, "aGRINNING FACE WITH STAR EYESdONE LARGE AND ONE SMALL EYE"),
   (0x1F92B, "aFACE WITH FINGER COVERING CLOSED LIPSaSERIOUS FACE WITH SYMBOLS COVERING MOUTH"),
   (0x1F92D, "aSMILING FACE WITH SMILING EYES AND HAND COVERING MOUTH"),
   (0x1F92E, "aFACE WITH OPEN MOUTH VOMITINGaSHOCKED FACE WITH EXPLODING HEADaPREGNANT WOMAN"),
   (0x1F931, "aBREAST-FEEDINGaPALMS UP TOGETHERaSELFIEaPRINCEaMAN IN TUXEDOaMOTHER CHRISTMAS"),
   (0x1F937, "aSHRUGaPERSON DOING CARTWHEELaJUGGLINGaFENCERaMODERN PENTATHLONaWRESTLERS"),
   (0x1F93D, "aWATER POLOaHANDBALLaDIVING MASKaWILTED FLOWERaDRUM WITH DRUMSTICKS"),
   (0x1F942, "aCLINKING GLASSESaTUMBLER GLASSaSPOONaGOAL NETaRIFLEaFIRST PLACE MEDAL"),
   (0x1F948, "aSECOND PLACE MEDALaTHIRD PLACE MEDALaBOXING GLOVEaMARTIAL ARTS UNIFORM"),
   (0x1F94C, "aCURLING STONEaLACROSSE STICK AND BALLaSOFTBALLaFLYING DISCaCROISSANTaAVOCADO"),
   (0x1F952, "aCUCUMBERaBACONaPOTATOaCARROTaBAGUETTE BREADaGREEN SALADaSHALLOW PAN OF FOOD"),
   (0x1F959, "aSTUFFED FLATBREADaEGGaGLASS OF MILKaPEANUTSaKIWIFRUITaPANCAKESaDUMPLING"),
   (0x1F960, "aFORTUNE COOKIEaTAKEOUT BOXaCHOPSTICKSaBOWL WITH SPOONaCUP WITH STRAWaCOCONUT"),
   (0x1F966, "aBROCCOLIaPIEaPRETZELaCUT OF MEATaSANDWICHaCANNED FOODaLEAFY GREENaMANGO"),
   (0x1F96E, "aMOON CAKEaBAGELaSMILING FACE WITH SMILING EYES AND THREE HEARTSaYAWNING FACE"),
   (0x1F972, "aSMILING FACE WITH TEARaFACE WITH PARTY HORN AND PARTY HAT"),
   (0x1F974, "cUNEVEN EYES AND WAVY MOUTHaOVERHEATED FACEaFREEZING FACEaNINJAaDISGUISED FACE"),
   (0x1F979, "aFACE HOLDING BACK TEARSbWITH PLEADING EYESaSARIaLAB COATaGOGGLESaHIKING BOOT"),
   (0x1F97F, "aFLAT SHOEaCRABaLION FACEaSCORPIONaTURKEYaUNICORN FACEaEAGLEaDUCKaBATaSHARKaOWL"),
   (0x1F98A, "aFOX FACEaBUTTERFLYaDEERaGORILLAaLIZARDaRHINOCEROSaSHRIMPaSQUIDaGIRAFFE FACE"),
   (0x1F993, "aZEBRA FACEaHEDGEHOGaSAUROPODaT-REXaCRICKETaKANGAROOaLLAMAaPEACOCKaHIPPOPOTAMUS"),
   (0x1F99C, "aPARROTaRACCOONaLOBSTERaMOSQUITOaMICROBEaBADGERaSWANaMAMMOTHaDODOaSLOTHaOTTER"),
   (0x1F9A7, "aORANGUTANaSKUNKaFLAMINGOaOYSTERaBEAVERaBISONaSEALaGUIDE DOGaPROBING CANE"),
   (0x1F9B0, "aEMOJI COMPONENT RED HAIRcCURLY HAIRcBALDcWHITE HAIRaBONEaLEGaFOOTaTOOTH"),
   (0x1F9B8, "aSUPERHEROaSUPERVILLAINaSAFETY VESTaEAR WITH HEARING AIDaMOTORIZED WHEELCHAIR"),
   (0x1F9BD, "aMANUAL WHEELCHAIRaMECHANICAL ARMbLEGaCHEESE WEDGEaCUPCAKEaSALT SHAKER"),
   (0x1F9C3, "aBEVERAGE BOXaGARLICaONIONaFALAFELaWAFFLEaBUTTERaMATE DRINKaICE CUBEaBUBBLE TEA"),
   (0x1F9CC, "aTROLLaSTANDING PERSONaKNEELING PERSONaDEAF PERSONaFACE WITH MONOCLEaADULT"),
   (0x1F9D2, "aCHILDaOLDER ADULTaBEARDED PERSONaPERSON WITH HEADSCARFbIN STEAMY ROOMbCLIMBING"),
   (0x1F9D8, "bIN LOTUS POSITIONaMAGEaFAIRYaVAMPIREaMERPERSONaELFaGENIEaZOMBIEaBRAIN"),
   (0x1F9E1, "aORANGE HEARTaBILLED CAPaSCARFaGLOVESaCOATaSOCKSaRED GIFT ENVELOPEaFIRECRACKER"),
   (0x1F9E9, "aJIGSAW PUZZLE PIECEaTEST TUBEaPETRI DISHaDNA DOUBLE HELIXaCOMPASSaABACUS"),
   (0x1F9EF, "aFIRE EXTINGUISHERaTOOLBOXaBRICKaMAGNETaLUGGAGEaLOTION BOTTLEaSPOOL OF THREAD"),
   (0x1F9F6, "aBALL OF YARNaSAFETY PINaTEDDY BEARaBROOMaBASKETaROLL OF PAPERaBAR OF SOAP"),
   (0x1F9FD, "aSPONGEaRECEIPTaNAZAR AMULETaNEUTRAL CHESS KINGcQUEENcROOKcBISHOPcKNIGHTcPAWN"),
   (0x1FA06, "aWHITE CHESS KNIGHT ROTATED FORTY-FIVE DEGREES"),
   (0x1FA07, "aBLACK CHESS KNIGHT ROTATED FORTY-FIVE DEGREES"),
   (0x1FA08, "aNEUTRAL CHESS KNIGHT ROTATED FORTY-FIVE DEGREES"),
   (0x1FA09, "aWHITE CHESS KING ROTATED NINETY DEGREEScQUEEN ROTATED NINETY DEGREES"),
   (0x1FA0B, "cROOK ROTATED NINETY DEGREEScBISHOP ROTATED NINETY DEGREES"),
   (0x1FA0D, "cKNIGHT ROTATED NINETY DEGREEScPAWN ROTATED NINETY DEGREES"),
   (0x1FA0F, "aBLACK CHESS KING ROTATED NINETY DEGREEScQUEEN ROTATED NINETY DEGREES"),
   (0x1FA11, "cROOK ROTATED NINETY DEGREEScBISHOP ROTATED NINETY DEGREES"),
   (0x1FA13, "cKNIGHT ROTATED NINETY DEGREEScPAWN ROTATED NINETY DEGREES"),
   (0x1FA15, "aNEUTRAL CHESS KING ROTATED NINETY DEGREEScQUEEN ROTATED NINETY DEGREES"),
   (0x1FA17, "cROOK ROTATED NINETY DEGREEScBISHOP ROTATED NINETY DEGREES"),
   (0x1FA19, "cKNIGHT ROTATED NINETY DEGREEScPAWN ROTATED NINETY DEGREES"),
   (0x1FA1B, "aWHITE CHESS KNIGHT ROTATED ONE HUNDRED THIRTY-FIVE DEGREES"),
   (0x1FA1C, "aBLACK CHESS KNIGHT ROTATED ONE HUNDRED THIRTY-FIVE DEGREES"),
   (0x1FA1D, "aNEUTRAL CHESS KNIGHT ROTATED ONE HUNDRED THIRTY-FIVE DEGREES"),
   (0x1FA1E, "aWHITE CHESS TURNED KINGdQUEENdROOKdBISHOPdKNIGHTdPAWNaBLACK CHESS TURNED KING"),
   (0x1FA25, "dQUEENdROOKdBISHOPdKNIGHTdPAWNaNEUTRAL CHESS TURNED KINGdQUEENdROOKdBISHOP"),
   (0x1FA2E, "dKNIGHTdPAWNaWHITE CHESS KNIGHT ROTATED TWO HUNDRED TWENTY-FIVE DEGREES"),
   (0x1FA31, "aBLACK CHESS KNIGHT ROTATED TWO HUNDRED TWENTY-FIVE DEGREES"),
   (0x1FA32, "aNEUTRAL CHESS KNIGHT ROTATED TWO HUNDRED TWENTY-FIVE DEGREES"),
   (0x1FA33, "aWHITE CHESS KING ROTATED TWO HUNDRED SEVENTY DEGREES"),
   (0x1FA34, "cQUEEN ROTATED TWO HUNDRED SEVENTY DEGREES"),
   (0x1FA35, "cROOK ROTATED TWO HUNDRED SEVENTY DEGREES"),
   (0x1FA36, "cBISHOP ROTATED TWO HUNDRED SEVENTY DEGREES"),
   (0x1FA37, "cKNIGHT ROTATED TWO HUNDRED SEVENTY DEGREES"),
   (0x1FA38, "cPAWN ROTATED TWO HUNDRED SEVENTY DEGREES"),
   (0x1FA39, "aBLACK CHESS KING ROTATED TWO HUNDRED SEVENTY DEGREES"),
   (0x1FA3A, "cQUEEN ROTATED TWO HUNDRED SEVENTY DEGREES"),
   (0x1FA3B, "cROOK ROTATED TWO HUNDRED SEVENTY DEGREES"),
   (0x1FA3C, "cBISHOP ROTATED TWO HUNDRED SEVENTY DEGREES"),
   (0x1FA3D, "cKNIGHT ROTATED TWO HUNDRED SEVENTY DEGREES"),
   (0x1FA3E, "cPAWN ROTATED TWO HUNDRED SEVENTY DEGREES"),
   (0x1FA3F, "aNEUTRAL CHESS KING ROTATED TWO HUNDRED SEVENTY DEGREES"),
   (0x1FA40, "cQUEEN ROTATED TWO HUNDRED SEVENTY DEGREES"),
   (0x1FA41, "cROOK ROTATED TWO HUNDRED SEVENTY DEGREES"),
   (0x1FA42, "cBISHOP ROTATED TWO HUNDRED SEVENTY DEGREES"),
   (0x1FA43, "cKNIGHT ROTATED TWO HUNDRED SEVENTY DEGREES"),
   (0x1FA44, "cPAWN ROTATED TWO HUNDRED SEVENTY DEGREES"),
   (0x1FA45, "aWHITE CHESS KNIGHT ROTATED THREE HUNDRED FIFTEEN DEGREES"),
   (0x1FA46, "aBLACK CHESS KNIGHT ROTATED THREE HUNDRED FIFTEEN DEGREES"),
   (0x1FA47, "aNEUTRAL CHESS KNIGHT ROTATED THREE HUNDRED FIFTEEN DEGREES"),
   (0x1FA48, "aWHITE CHESS EQUIHOPPERaBLACK CHESS EQUIHOPPERaNEUTRAL CHESS EQUIHOPPER"),
   (0x1FA4B, "aWHITE CHESS EQUIHOPPER ROTATED NINETY DEGREES"),
   (0x1FA4C, "aBLACK CHESS EQUIHOPPER ROTATED NINETY DEGREES"),
   (0x1FA4D, "aNEUTRAL CHESS EQUIHOPPER ROTATED NINETY DEGREESaWHITE CHESS KNIGHT-QUEEN"),
   (0x1FA4F, "cKNIGHT-ROOKcKNIGHT-BISHOPaBLACK CHESS KNIGHT-QUEENcKNIGHT-ROOKcKNIGHT-BISHOP"),
   (0x1FA60, "aXIANGQI RED GENERALcMANDARINcELEPHANTcHORSEcCHARIOTcCANNONcSOLDIER"),
   (0x1FA67, "bBLACK GENERALcMANDARINcELEPHANTcHORSEcCHARIOTcCANNONcSOLDIER"),
   (0x1FA70, "aBALLET SHOESaONE-PIECE SWIMSUITaBRIEFSaSHORTSaTHONG SANDAL"),
   (0x1FA78, "aDROP OF BLOODaADHESIVE BANDAGEaSTETHOSCOPEaX-RAYaCRUTCH"),
   (0x1FA80, "aYO-YOaKITEaPARACHUTEaBOOMERANGaMAGIC WANDaPINATAaNESTING DOLLS"),
   (0x1FA90, "aRINGED PLANETaCHAIRaRAZORaAXEaDIYA LAMPaBANJOaMILITARY HELMETaACCORDION"),
   (0x1FA98, "aLONG DRUMaCOINaCARPENTRY SAWaSCREWDRIVERaLADDERaHOOKaMIRRORaWINDOWaPLUNGER"),
   (0x1FAA1, "aSEWING NEEDLEaKNOTaBUCKETaMOUSE TRAPaTOOTHBRUSHaHEADSTONEaPLACARDaROCK"),
   (0x1FAA9, "aMIRROR BALLaIDENTIFICATION CARDaLOW BATTERYaHAMSA"),
   (0x1FAB0, "aFLYaWORMaBEETLEaCOCKROACHaPOTTED PLANTaWOODaFEATHERaLOTUSaCORALaEMPTY NEST"),
   (0x1FABA, "aNEST WITH EGGS"),
   (0x1FAC0, "aANATOMICAL HEARTaLUNGSaPEOPLE HUGGINGaPREGNANT MANbPERSONaPERSON WITH CROWN"),
   (0x1FAD0, "aBLUEBERRIESaBELL PEPPERaOLIVEaFLATBREADaTAMALEaFONDUEaTEAPOTaPOURING LIQUID"),
   (0x1FAD8, "aBEANSaJAR"),
   (0x1FAE0, "aMELTING FACEaSALUTING FACEaFACE WITH OPEN EYES AND HAND OVER MOUTHcPEEKING EYE"),
   (0x1FAE4, "cDIAGONAL MOUTHaDOTTED LINE FACEaBITING LIPaBUBBLES"),
   (0x1FAF0, "aHAND WITH INDEX FINGER AND THUMB CROSSEDaRIGHTWARDS HANDaLEFTWARDS HAND"),
   (0x1FAF3, "aPALM DOWN HANDbUP HANDaINDEX POINTING AT THE VIEWERaHEART HANDS"),
   (0x1FB00, "aBLOCK SEXTANT-1bSEXTANT-2bSEXTANT-12bSEXTANT-3bSEXTANT-13bSEXTANT-23"),
   (0x1FB06, "bSEXTANT-123bSEXTANT-4bSEXTANT-14bSEXTANT-24bSEXTANT-124bSEXTANT-34bSEXTANT-134"),
   (0x1FB0D, "bSEXTANT-234bSEXTANT-1234bSEXTANT-5bSEXTANT-15bSEXTANT-25bSEXTANT-125"),
   (0x1FB13, "bSEXTANT-35bSEXTANT-235bSEXTANT-1235bSEXTANT-45bSEXTANT-145bSEXTANT-245"),
   (0x1FB19, "bSEXTANT-1245bSEXTANT-345bSEXTANT-1345bSEXTANT-2345bSEXTANT-12345bSEXTANT-6"),
   (0x1FB1F, "bSEXTANT-16bSEXTANT-26bSEXTANT-126bSEXTANT-36bSEXTANT-136bSEXTANT-236"),
   (0x1FB25, "bSEXTANT-1236bSEXTANT-46bSEXTANT-146bSEXTANT-1246bSEXTANT-346bSEXTANT-1346"),
   (0x1FB2B, "bSEXTANT-2346bSEXTANT-12346bSEXTANT-56bSEXTANT-156bSEXTANT-256bSEXTANT-1256"),
   (0x1FB31, "bSEXTANT-356bSEXTANT-1356bSEXTANT-2356bSEXTANT-12356bSEXTANT-456bSEXTANT-1456"),
   (0x1FB37, "bSEXTANT-2456bSEXTANT-12456bSEXTANT-3456bSEXTANT-13456bSEXTANT-23456"),
   (0x1FB3C, "aLOWER LEFT BLOCK DIAGONAL LOWER MIDDLE LEFT TO LOWER CENTREjRIGHT"),
   (0x1FB3E, "eUPPER MIDDLE LEFT TO LOWER CENTREjRIGHTfLEFT TO LOWER CENTRE"),
   (0x1FB41, "bRIGHT BLOCK DIAGONAL UPPER MIDDLE LEFT TO UPPER CENTREjRIGHT"),
   (0x1FB43, "eLOWER MIDDLE LEFT TO UPPER CENTREjRIGHTfLEFT TO UPPER CENTRE"),
   (0x1FB46, "fMIDDLE LEFT TO UPPER MIDDLE RIGHTfCENTRE TO LOWER MIDDLE RIGHT"),
   (0x1FB48, "fLEFT TO LOWER MIDDLE RIGHTfCENTRE TO UPPER MIDDLE RIGHT"),
   (0x1FB4A, "fLEFT TO UPPER MIDDLE RIGHTfCENTRE TO UPPER RIGHT"),
   (0x1FB4C, "bLEFT BLOCK DIAGONAL UPPER CENTRE TO UPPER MIDDLE RIGHT"),
   (0x1FB4D, "fLEFT TO UPPER MIDDLE RIGHTfCENTRE TO LOWER MIDDLE RIGHT"),
   (0x1FB4F, "fLEFT TO LOWER MIDDLE RIGHTfCENTRE TO LOWER RIGHT"),
   (0x1FB51, "fMIDDLE LEFT TO LOWER MIDDLE RIGHT"),
   (0x1FB52, "aUPPER RIGHT BLOCK DIAGONAL LOWER MIDDLE LEFT TO LOWER CENTREjRIGHT"),
   (0x1FB54, "eUPPER MIDDLE LEFT TO LOWER CENTREjRIGHTfLEFT TO LOWER CENTRE"),
   (0x1FB57, "bLEFT BLOCK DIAGONAL UPPER MIDDLE LEFT TO UPPER CENTREjRIGHT"),
   (0x1FB59, "eLOWER MIDDLE LEFT TO UPPER CENTREjRIGHTfLEFT TO UPPER CENTRE"),
   (0x1FB5C, "fMIDDLE LEFT TO UPPER MIDDLE RIGHTfCENTRE TO LOWER MIDDLE RIGHT"),
   (0x1FB5E, "fLEFT TO LOWER MIDDLE RIGHTfCENTRE TO UPPER MIDDLE RIGHT"),
   (0x1FB60, "fLEFT TO UPPER MIDDLE RIGHTfCENTRE TO UPPER RIGHT"),
   (0x1FB62, "bRIGHT BLOCK DIAGONAL UPPER CENTRE TO UPPER MIDDLE RIGHT"),
   (0x1FB63, "fLEFT TO UPPER MIDDLE RIGHTfCENTRE TO LOWER MIDDLE RIGHT"),
   (0x1FB65, "fLEFT TO LOWER MIDDLE RIGHTfCENTRE TO LOWER RIGHT"),
   (0x1FB67, "fMIDDLE LEFT TO LOWER MIDDLE RIGHT"),
   (0x1FB68, "bAND RIGHT AND LOWER TRIANGULAR THREE QUARTERS BLOCK"),
   (0x1FB69, "aLEFT AND LOWER AND RIGHT TRIANGULAR THREE QUARTERS BLOCK"),
   (0x1FB6A, "aUPPER AND LEFT AND LOWER TRIANGULAR THREE QUARTERS BLOCK"),
   (0x1FB6B, "aLEFT AND UPPER AND RIGHT TRIANGULAR THREE QUARTERS BLOCK"),
   (0x1FB6C, "bTRIANGULAR ONE QUARTER BLOCKaUPPER TRIANGULAR ONE QUARTER BLOCK"),
   (0x1FB6E, "aRIGHT TRIANGULAR ONE QUARTER BLOCKaLOWER TRIANGULAR ONE QUARTER BLOCK"),
   (0x1FB70, "aVERTICAL ONE EIGHTH BLOCK-2dBLOCK-3dBLOCK-4dBLOCK-5dBLOCK-6dBLOCK-7"),
   (0x1FB76, "aHORIZONTAL ONE EIGHTH BLOCK-2dBLOCK-3dBLOCK-4dBLOCK-5dBLOCK-6dBLOCK-7"),
   (0x1FB7C, "aLEFT AND LOWER ONE EIGHTH BLOCKcUPPER ONE EIGHTH BLOCK"),
   (0x1FB7E, "aRIGHT AND UPPER ONE EIGHTH BLOCKcLOWER ONE EIGHTH BLOCK"),
   (0x1FB80, "aUPPER AND LOWER ONE EIGHTH BLOCKaHORIZONTAL ONE EIGHTH BLOCK-1358"),
   (0x1FB82, "aUPPER ONE QUARTER BLOCKbTHREE EIGHTHS BLOCKbFIVE EIGHTHS BLOCK"),
   (0x1FB85, "bTHREE QUARTERS BLOCKbSEVEN EIGHTHS BLOCKaRIGHT ONE QUARTER BLOCK"),
   (0x1FB88, "bTHREE EIGHTHS BLOCKbFIVE EIGHTHS BLOCKbTHREE QUARTERS BLOCK"),
   (0x1FB8B, "bSEVEN EIGHTHS BLOCKaLEFT HALF MEDIUM SHADEaRIGHT HALF MEDIUM SHADE"),
   (0x1FB8E, "aUPPER HALF MEDIUM SHADEaLOWER HALF MEDIUM SHADEaINVERSE MEDIUM SHADE"),
   (0x1FB91, "aUPPER HALF BLOCK AND LOWER HALF INVERSE MEDIUM SHADE"),
   (0x1FB92, "cINVERSE MEDIUM SHADE AND LOWER HALF BLOCK"),
   (0x1FB94, "aLEFT HALF INVERSE MEDIUM SHADE AND RIGHT HALF BLOCKaCHECKER BOARD FILL"),
   (0x1FB96, "aINVERSE CHECKER BOARD FILLaHEAVY HORIZONTAL FILL"),
   (0x1FB98, "aUPPER LEFT TO LOWER RIGHT FILLbRIGHT TO LOWER LEFT FILL"),
   (0x1FB9A, "bAND LOWER TRIANGULAR HALF BLOCKaLEFT AND RIGHT TRIANGULAR HALF BLOCK"),
   (0x1FB9C, "aUPPER LEFT TRIANGULAR MEDIUM SHADEbRIGHT TRIANGULAR MEDIUM SHADE"),
   (0x1FB9E, "aLOWER RIGHT TRIANGULAR MEDIUM SHADEbLEFT TRIANGULAR MEDIUM SHADE"),
   (0x1FBA0, "aBOX DRAWINGS LIGHT DIAGONAL UPPER CENTRE TO MIDDLE LEFTiRIGHT"),
   (0x1FBA2, "eMIDDLE LEFT TO LOWER CENTREfRIGHT TO LOWER CENTRE"),
   (0x1FBA4, "eUPPER CENTRE TO MIDDLE LEFT TO LOWER CENTREiRIGHT TO LOWER CENTRE"),
   (0x1FBA6, "eMIDDLE LEFT TO LOWER CENTRE TO MIDDLE RIGHThUPPER CENTRE TO MIDDLE RIGHT"),
   (0x1FBA8, "eUPPER CENTRE TO MIDDLE LEFT AND MIDDLE RIGHT TO LOWER CENTRE"),
   (0x1FBA9, "iRIGHT AND MIDDLE LEFT TO LOWER CENTREjTO LOWER CENTRE TO MIDDLE LEFT"),
   (0x1FBAB, "iLEFT TO LOWER CENTRE TO MIDDLE RIGHT"),
   (0x1FBAC, "eMIDDLE LEFT TO UPPER CENTRE TO MIDDLE RIGHT TO LOWER CENTRE"),
   (0x1FBAD, "fRIGHT TO UPPER CENTRE TO MIDDLE LEFT TO LOWER CENTREeDIAMOND"),
   (0x1FBAF, "dHORIZONTAL WITH VERTICAL STROKEaARROWHEAD-SHAPED POINTERaINVERSE CHECK MARK"),
   (0x1FBB2, "aLEFT HALF RUNNING MANaRIGHT HALF RUNNING MAN"),
   (0x1FBB4, "aINVERSE DOWNWARDS ARROW WITH TIP LEFTWARDS"),
   (0x1FBB5, "aLEFTWARDS ARROW AND UPPER AND LOWER ONE EIGHTH BLOCK"),
   (0x1FBB6, "aRIGHTWARDS ARROW AND UPPER AND LOWER ONE EIGHTH BLOCK"),
   (0x1FBB7, "aDOWNWARDS ARROW AND RIGHT ONE EIGHTH BLOCK"),
   (0x1FBB8, "aUPWARDS ARROW AND RIGHT ONE EIGHTH BLOCKaLEFT HALF FOLDERaRIGHT HALF FOLDER"),
   (0x1FBBB, "aVOIDED GREEK CROSSaRIGHT OPEN SQUARED DOTaNEGATIVE DIAGONAL CROSS"),
   (0x1FBBE, "cMIDDLE RIGHT TO LOWER CENTREcDIAMONDaWHITE HEAVY SALTIRE WITH ROUNDED CORNERS"),
   (0x1FBC1, "aLEFT THIRD WHITE RIGHT POINTING INDEXaMIDDLE THIRD WHITE RIGHT POINTING INDEX"),
   (0x1FBC3, "aRIGHT THIRD WHITE RIGHT POINTING INDEXaNEGATIVE SQUARED QUESTION MARK"),
   (0x1FBC5, "aSTICK FIGUREcWITH ARMS RAISEDcLEANING LEFTdRIGHTcWITH DRESS"),
   (0x1FBCA, "aWHITE UP-POINTING CHEVRON"),
   (0x1FBF0, "aSEGMENTED DIGIT ZEROcONEcTWOcTHREEcFOURcFIVEcSIXcSEVENcEIGHTcNINE"),
   (0xE0001, "aLANGUAGE TAG"),
   (0xE0020, "aTAG SPACEbEXCLAMATION MARKbQUOTATION MARKbNUMBER SIGNbDOLLAR SIGNbPERCENT SIGN"),
   (0xE0026, "bAMPERSANDbAPOSTROPHEbLEFT PARENTHESISbRIGHT PARENTHESISbASTERISKbPLUS SIGN"),
   (0xE002C, "bCOMMAbHYPHEN-MINUSbFULL STOPbSOLIDUSbDIGIT ZEROcONEcTWOcTHREEcFOURcFIVEcSIX"),
   (0xE0037, "cSEVENcEIGHTcNINEbCOLONbSEMICOLONbLESS-THAN SIGNbEQUALS SIGNbGREATER-THAN SIGN"),
   (0xE003F, "bQUESTION MARKbCOMMERCIAL ATbLATIN CAPITAL LETTER AeBeCeDeEeFeGeHeIeJeKeLeMeNeO"),
   (0xE0050, "ePeQeReSeTeUeVeWeXeYeZbLEFT SQUARE BRACKETbREVERSE SOLIDUSbRIGHT SQUARE BRACKET"),
   (0xE005E, "bCIRCUMFLEX ACCENTbLOW LINEbGRAVE ACCENTbLATIN SMALL LETTER AeBeCeDeEeFeGeHeIeJ"),
   (0xE006B, "eKeLeMeNeOePeQeReSeTeUeVeWeXeYeZbLEFT CURLY BRACKETbVERTICAL LINE"),
   (0xE007D, "bRIGHT CURLY BRACKETbTILDEaCANCEL TAG"),
   (0xE0100, "aVARIATION SELECTOR-17bSELECTOR-18bSELECTOR-19bSELECTOR-20bSELECTOR-21"),
   (0xE0105, "bSELECTOR-22bSELECTOR-23bSELECTOR-24bSELECTOR-25bSELECTOR-26bSELECTOR-27"),
   (0xE010B, "bSELECTOR-28bSELECTOR-29bSELECTOR-30bSELECTOR-31bSELECTOR-32bSELECTOR-33"),
   (0xE0111, "bSELECTOR-34bSELECTOR-35bSELECTOR-36bSELECTOR-37bSELECTOR-38bSELECTOR-39"),
   (0xE0117, "bSELECTOR-40bSELECTOR-41bSELECTOR-42bSELECTOR-43bSELECTOR-44bSELECTOR-45"),
   (0xE011D, "bSELECTOR-46bSELECTOR-47bSELECTOR-48bSELECTOR-49bSELECTOR-50bSELECTOR-51"),
   (0xE0123, "bSELECTOR-52bSELECTOR-53bSELECTOR-54bSELECTOR-55bSELECTOR-56bSELECTOR-57"),
   (0xE0129, "bSELECTOR-58bSELECTOR-59bSELECTOR-60bSELECTOR-61bSELECTOR-62bSELECTOR-63"),
   (0xE012F, "bSELECTOR-64bSELECTOR-65bSELECTOR-66bSELECTOR-67bSELECTOR-68bSELECTOR-69"),
   (0xE0135, "bSELECTOR-70bSELECTOR-71bSELECTOR-72bSELECTOR-73bSELECTOR-74bSELECTOR-75"),
   (0xE013B, "bSELECTOR-76bSELECTOR-77bSELECTOR-78bSELECTOR-79bSELECTOR-80bSELECTOR-81"),
   (0xE0141, "bSELECTOR-82bSELECTOR-83bSELECTOR-84bSELECTOR-85bSELECTOR-86bSELECTOR-87"),
   (0xE0147, "bSELECTOR-88bSELECTOR-89bSELECTOR-90bSELECTOR-91bSELECTOR-92bSELECTOR-93"),
   (0xE014D, "bSELECTOR-94bSELECTOR-95bSELECTOR-96bSELECTOR-97bSELECTOR-98bSELECTOR-99"),
   (0xE0153, "bSELECTOR-100bSELECTOR-101bSELECTOR-102bSELECTOR-103bSELECTOR-104bSELECTOR-105"),
   (0xE0159, "bSELECTOR-106bSELECTOR-107bSELECTOR-108bSELECTOR-109bSELECTOR-110bSELECTOR-111"),
   (0xE015F, "bSELECTOR-112bSELECTOR-113bSELECTOR-114bSELECTOR-115bSELECTOR-116bSELECTOR-117"),
   (0xE0165, "bSELECTOR-118bSELECTOR-119bSELECTOR-120bSELECTOR-121bSELECTOR-122bSELECTOR-123"),
   (0xE016B, "bSELECTOR-124bSELECTOR-125bSELECTOR-126bSELECTOR-127bSELECTOR-128bSELECTOR-129"),
   (0xE0171, "bSELECTOR-130bSELECTOR-131bSELECTOR-132bSELECTOR-133bSELECTOR-134bSELECTOR-135"),
   (0xE0177, "bSELECTOR-136bSELECTOR-137bSELECTOR-138bSELECTOR-139bSELECTOR-140bSELECTOR-141"),
   (0xE017D, "bSELECTOR-142bSELECTOR-143bSELECTOR-144bSELECTOR-145bSELECTOR-146bSELECTOR-147"),
   (0xE0183, "bSELECTOR-148bSELECTOR-149bSELECTOR-150bSELECTOR-151bSELECTOR-152bSELECTOR-153"),
   (0xE0189, "bSELECTOR-154bSELECTOR-155bSELECTOR-156bSELECTOR-157bSELECTOR-158bSELECTOR-159"),
   (0xE018F, "bSELECTOR-160bSELECTOR-161bSELECTOR-162bSELECTOR-163bSELECTOR-164bSELECTOR-165"),
   (0xE0195, "bSELECTOR-166bSELECTOR-167bSELECTOR-168bSELECTOR-169bSELECTOR-170bSELECTOR-171"),
   (0xE019B, "bSELECTOR-172bSELECTOR-173bSELECTOR-174bSELECTOR-175bSELECTOR-176bSELECTOR-177"),
   (0xE01A1, "bSELECTOR-178bSELECTOR-179bSELECTOR-180bSELECTOR-181bSELECTOR-182bSELECTOR-183"),
   (0xE01A7, "bSELECTOR-184bSELECTOR-185bSELECTOR-186bSELECTOR-187bSELECTOR-188bSELECTOR-189"),
   (0xE01AD, "bSELECTOR-190bSELECTOR-191bSELECTOR-192bSELECTOR-193bSELECTOR-194bSELECTOR-195"),
   (0xE01B3, "bSELECTOR-196bSELECTOR-197bSELECTOR-198bSELECTOR-199bSELECTOR-200bSELECTOR-201"),
   (0xE01B9, "bSELECTOR-202bSELECTOR-203bSELECTOR-204bSELECTOR-205bSELECTOR-206bSELECTOR-207"),
   (0xE01BF, "bSELECTOR-208bSELECTOR-209bSELECTOR-210bSELECTOR-211bSELECTOR-212bSELECTOR-213"),
   (0xE01C5, "bSELECTOR-214bSELECTOR-215bSELECTOR-216bSELECTOR-217bSELECTOR-218bSELECTOR-219"),
   (0xE01CB, "bSELECTOR-220bSELECTOR-221bSELECTOR-222bSELECTOR-223bSELECTOR-224bSELECTOR-225"),
   (0xE01D1, "bSELECTOR-226bSELECTOR-227bSELECTOR-228bSELECTOR-229bSELECTOR-230bSELECTOR-231"),
   (0xE01D7, "bSELECTOR-232bSELECTOR-233bSELECTOR-234bSELECTOR-235bSELECTOR-236bSELECTOR-237"),
   (0xE01DD, "bSELECTOR-238bSELECTOR-239bSELECTOR-240bSELECTOR-241bSELECTOR-242bSELECTOR-243"),
   (0xE01E3, "bSELECTOR-244bSELECTOR-245bSELECTOR-246bSELECTOR-247bSELECTOR-248bSELECTOR-249"),
   (0xE01E9, "bSELECTOR-250bSELECTOR-251bSELECTOR-252bSELECTOR-253bSELECTOR-254bSELECTOR-255"),
   (0xE01EF, "bSELECTOR-256")]

end Scriptlet.Text.CharacterNames
