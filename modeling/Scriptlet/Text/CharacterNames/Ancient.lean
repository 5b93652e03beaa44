/-
# Names of characters from U+10000 to U+10FF6

The scripts of antiquity up to Nabataean and Manichaean.
-/

namespace Scriptlet.Text.CharacterNames

def ancient : List (Nat × String) :=
  [(0x10000, "aLINEAR B SYLLABLE B008 AdB038 EdB028 IdB061 OdB010 UdB001 DAdB045 DEdB007 DI"),
   (0x10008, "dB014 DOdB051 DUdB057 JAdB046 JE"),
   (0x1000D, "dB036 JOdB065 JUdB077 KAdB044 KEdB067 KIdB070 KOdB081 KUdB080 MAdB013 ME"),
   (0x10016, "dB073 MIdB015 MOdB023 MUdB006 NAdB024 NEdB030 NIdB052 NOdB055 NUdB003 PA"),
   (0x1001F, "dB072 PEdB039 PIdB011 POdB050 PUdB016 QAdB078 QEdB021 QIdB032 QO"),
   (0x10028, "dB060 RAdB027 REdB053 RIdB002 ROdB026 RUdB031 SAdB009 SEdB041 SIdB012 SO"),
   (0x10031, "dB058 SUdB059 TAdB004 TEdB037 TIdB005 TOdB069 TUdB054 WAdB075 WEdB040 WI"),
   (0x1003A, "dB042 WO"), (0x1003C, "dB017 ZAdB074 ZE"),
   (0x1003F, "dB020 ZOdB025 A2dB043 A3dB085 AUdB071 DWEdB090 DWOdB048 NWAdB029 PU2dB062 PTE"),
   (0x10048, "dB076 RA2dB033 RA3dB068 RO2dB066 TA2dB087 TWEdB091 TWO"),
   (0x10050, "cSYMBOL B018dB019dB022dB034dB047dB049dB056dB063dB064dB079dB082dB083dB086dB089"),
   (0x10080, "cIDEOGRAM B100 MANdB102 WOMANdB104 DEERdB105 EQUIDdB105F MAREdB105M STALLION"),
   (0x10086, "dB106F EWEdB106M RAMdB107F SHE-GOATdB107M HE-GOATdB108F SOWdB108M BOAR"),
   (0x1008C, "dB109F COWdB109M BULLdB120 WHEATdB121 BARLEYdB122 OLIVEdB123 SPICEdB125 CYPERUS"),
   (0x10093, "cMONOGRAM B127 KAPOdB128 KANAKOcIDEOGRAM B130 OILdB131 WINEdB132"),
   (0x10098, "cMONOGRAM B133 AREPAdB135 MERIcIDEOGRAM B140 BRONZEdB141 GOLDdB142dB145 WOOL"),
   (0x1009E, "dB146dB150dB151 HORNdB152dB153dB154cMONOGRAM B156 TURO2cIDEOGRAM B157dB158"),
   (0x100A7, "dB159 CLOTHdB160dB161dB162 GARMENTdB163 ARMOURdB164dB165dB166dB167dB168dB169"),
   (0x100B2, "dB170dB171dB172dB173 MONTHdB174dB176 TREEdB177dB178dB179dB180dB181dB182dB183"),
   (0x100BF, "dB184dB185dB189dB190dB191 HELMETdB220 FOOTSTOOLdB225 BATHTUBdB230 SPEAR"),
   (0x100C7, "dB231 ARROWdB232dB233 SWORDdB234dB236dB240 WHEELED CHARIOTdB241 CHARIOT"),
   (0x100CE, "dB242 CHARIOT FRAMEdB243 WHEELdB245dB246cMONOGRAM B247 DIPTEcIDEOGRAM B248dB249"),
   (0x100D5, "dB251dB252dB253dB254 DARTdB255dB256dB257dB258dB259dVESSEL B155eB200eB201eB202"),
   (0x100E2, "eB203eB204eB205eB206eB207eB208eB209eB210eB211eB212eB213eB214eB215eB216eB217"),
   (0x100F1, "eB218eB219eB221eB222eB226eB227eB228eB229eB250eB305"),
   (0x10100, "aAEGEAN WORD SEPARATOR LINEdDOTbCHECK MARK"),
   (0x10107, "bNUMBER ONEcTWOcTHREEcFOURcFIVEcSIXcSEVENcEIGHTcNINEcTENcTWENTYcTHIRTYcFORTY"),
   (0x10114, "cFIFTYcSIXTYcSEVENTYcEIGHTYcNINETYcONE HUNDREDcTWO HUNDREDcTHREE HUNDRED"),
   (0x1011C, "cFOUR HUNDREDcFIVE HUNDREDcSIX HUNDREDcSEVEN HUNDREDcEIGHT HUNDREDcNINE HUNDRED"),
   (0x10122, "cONE THOUSANDcTWO THOUSANDcTHREE THOUSANDcFOUR THOUSANDcFIVE THOUSAND"),
   (0x10127, "cSIX THOUSANDcSEVEN THOUSANDcEIGHT THOUSANDcNINE THOUSANDcTEN THOUSAND"),
   (0x1012C, "cTWENTY THOUSANDcTHIRTY THOUSANDcFORTY THOUSANDcFIFTY THOUSANDcSIXTY THOUSAND"),
   (0x10131, "cSEVENTY THOUSANDcEIGHTY THOUSANDcNINETY THOUSAND"),
   (0x10137, "bWEIGHT BASE UNITcFIRST SUBUNITcSECOND SUBUNITcTHIRD SUBUNITcFOURTH SUBUNIT"),
   (0x1013C, "bDRY MEASURE FIRST SUBUNITbLIQUID MEASURE FIRST SUBUNITbMEASURE SECOND SUBUNIT"),
   (0x1013F, "cTHIRD SUBUNITaGREEK ACROPHONIC ATTIC ONE QUARTEReHALFeDRACHMAdFIVEdFIFTY"),
   (0x10145, "dFIVE HUNDREDeTHOUSANDdFIFTY THOUSANDdFIVE TALENTSdTEN TALENTSdFIFTY TALENTS"),
   (0x1014B, "dONE HUNDRED TALENTSdFIVE HUNDRED TALENTSdONE THOUSAND TALENTS"),
   (0x1014E, "dFIVE THOUSAND TALENTSeSTATERSdTEN STATERSdFIFTY STATERSdONE HUNDRED STATERS"),
   (0x10153, "dFIVE HUNDRED STATERSdONE THOUSAND STATERSdTEN THOUSAND STATERS"),
   (0x10156, "dFIFTY THOUSAND STATERSdTEN MNAScHERAEUM ONE PLETHRONcTHESPIAN ONE"),
   (0x1015A, "cHERMIONIAN ONEcEPIDAUREAN TWOcTHESPIAN TWOcCYRENAIC TWO DRACHMAS"),
   (0x1015E, "cEPIDAUREAN TWO DRACHMAScTROEZENIAN FIVEdTENeALTERNATE FORMcHERMIONIAN TEN"),
   (0x10163, "cMESSENIAN TENcTHESPIAN TENdTHIRTYcTROEZENIAN FIFTYeALTERNATE FORM"),
   (0x10168, "cHERMIONIAN FIFTYcTHESPIAN FIFTYdONE HUNDREDdTHREE HUNDRED"),
   (0x1016C, "cEPIDAUREAN FIVE HUNDREDcTROEZENIAN FIVE HUNDREDcTHESPIAN FIVE HUNDRED"),
   (0x1016F, "cCARYSTIAN FIVE HUNDREDcNAXIAN FIVE HUNDREDcTHESPIAN ONE THOUSANDdFIVE THOUSAND"),
   (0x10173, "cDELPHIC FIVE MNAScSTRATIAN FIFTY MNASbONE HALF SIGNeALTERNATE FORM"),
   (0x10177, "bTWO THIRDS SIGNbTHREE QUARTERS SIGNbYEAR SIGNbTALENT SIGNbDRACHMA SIGN"),
   (0x1017C, "bOBOL SIGNbTWO OBOLS SIGNbTHREE OBOLS SIGNbFOUR OBOLS SIGNbFIVE OBOLS SIGN"),
   (0x10181, "bMETRETES SIGNbKYATHOS BASE SIGNbLITRA SIGNbOUNKIA SIGNbXESTES SIGNbARTABE SIGN"),
   (0x10187, "bAROURA SIGNbGRAMMA SIGNbTRYBLION BASE SIGNbZERO SIGNbONE QUARTER SIGN"),
   (0x1018C, "bSINUSOID SIGNbINDICTION SIGNaNOMISMA SIGN"),
   (0x10190, "aROMAN SEXTANS SIGNbUNCIA SIGNbSEMUNCIA SIGNbSEXTULA SIGNbDIMIDIA SEXTULA SIGN"),
   (0x10195, "bSILIQUA SIGNbDENARIUS SIGNbQUINARIUS SIGNbSESTERTIUS SIGNbDUPONDIUS SIGN"),
   (0x1019A, "bAS SIGNbCENTURIAL SIGNaASCIA SYMBOL"), (0x101A0, "aGREEK SYMBOL TAU RHO"),
   (0x101D0, "aPHAISTOS DISC SIGN PEDESTRIANdPLUMED HEADdTATTOOED HEADdCAPTIVEdCHILDdWOMAN"),
   (0x101D6, "dHELMETdGAUNTLETdTIARAdARROWdBOWdSHIELDdCLUBdMANACLESdMATTOCKdSAWdLIDdBOOMERANG"),
   (0x101E2, "dCARPENTRY PLANEdDOLIUMdCOMBdSLINGdCOLUMNdBEEHIVEdSHIPdHORNdHIDEdBULLS LEGdCAT"),
   (0x101ED, "dRAMdEAGLEdDOVEdTUNNYdBEEdPLANE TREEdVINEdPAPYRUSdROSETTEdLILYdOX BACKdFLUTE"),
   (0x101F9, "dGRATERdSTRAINERdSMALL AXEdWAVY BANDdCOMBINING OBLIQUE STROKE"),
   (0x10280, "aLYCIAN LETTER AcEcBcBHcGcDcIcWcZcTHcJcKcQcLcMcNcMMcNNcUcPcKKcRcScTcTTcANcENcH"),
   (0x1029C, "cX"),
   (0x102A0, "aCARIAN LETTER AcP2cDcLcUUUcRcLDcA2cQcBcMcOcD2cTcSHcSH2cScC-18cUcNNcXcNcTT2cP"),
   (0x102B8, "cSScIcEcUUUUcKcK2cNDcUUcGcG2cSTcST2cNGcIIcC-39cTTcUUU2cRRcMBcMB2cMB3cMB4cLD2cE2"),
   (0x102D0, "cUUU3"),
   (0x102E0, "aCOPTIC EPACT THOUSANDS MARKcDIGIT ONEdTWOdTHREEdFOURdFIVEdSIXdSEVENdEIGHTdNINE"),
   (0x102EA, "cNUMBER TENdTWENTYdTHIRTYdFORTYdFIFTYdSIXTYdSEVENTYdEIGHTYdNINETYdONE HUNDRED"),
   (0x102F4, "dTWO HUNDREDdTHREE HUNDREDdFOUR HUNDREDdFIVE HUNDREDdSIX HUNDREDdSEVEN HUNDRED"),
   (0x102FA, "dEIGHT HUNDREDdNINE HUNDRED"),
   (0x10300, "aOLD ITALIC LETTER AdBEdKEdDEdEdVEdZEdHEdTHEdIdKAdELdEMdENdESHdOdPEdSHEdKUdER"),
   (0x10314, "dESdTEdUdEKSdPHEdKHEdEFdERSdCHEdIIdUUdESScNUMERAL ONEdFIVEdTENdFIFTY"),
   (0x1032D, "cLETTER YEdNORTHERN TSEdSOUTHERN TSEaGOTHIC LETTER AHSAcBAIRKANcGIBAcDAGS"),
   (0x10334, "cAIHVUScQAIRTHRAcIUJAcHAGLcTHIUTHcEIScKUSMAcLAGUScMANNAcNAUTHScJERcURUS"),
   (0x10340, "cPAIRTHRAcNINETYcRAIDAcSAUILcTEIWScWINJAcFAIHUcIGGWScHWAIRcOTHALcNINE HUNDRED"),
   (0x10350, "aOLD PERMIC LETTER ANdBURdGAIdDOIdEdZHOIdDZHOIdZATAdDZITAdIdKOKEdLEIdMENOE"),
   (0x1035D, "dNENOEdVOOIdPEEIdREIdSIIdTAIdUdCHERYdSHOOIdSHCHOOIdYRYdYERUdOdOOdEFdHAdTSIUdVER"),
   (0x1036F, "dYERdYERIdYATdIEdYUdYAdIAaCOMBINING OLD PERMIC LETTER ANeDOIeZATAeNENOEeSII"),
   (0x10380, "aUGARITIC LETTER ALPAcBETAcGAMLAcKHAcDELTAcHOcWOcZETAcHOTAcTETcYODcKAFcSHIN"),
   (0x1038D, "cLAMDAcMEMcDHALcNUNcZUcSAMKAcAINcPUcSADEcQOPAcRASHAcTHANNAcGHAINcTOcIcUcSSU"),
   (0x1039F, "bWORD DIVIDERaOLD PERSIAN SIGN AdIdUdKAdKUdGAdGUdXAdCAdJAdJIdTAdTUdDAdDIdDUdTHA"),
   (0x103B1, "dPAdBAdFAdNAdNUdMAdMIdMUdYAdVAdVIdRAdRUdLAdSAdZAdSHAdSSAdHA"),
   (0x103C8, "dAURAMAZDAAdAURAMAZDAA-2dAURAMAZDAAHAdXSHAAYATHIYAdDAHYAAUSHdDAHYAAUSH-2dBAGA"),
   (0x103CF, "dBUUMISHcWORD DIVIDERcNUMBER ONEdTWOdTENdTWENTYdHUNDRED"),
   (0x10400, "aDESERET CAPITAL LETTER LONG IeEeAeAHeOeOOdSHORT IeEeAeAHeOeOOdAYdOWdWUdYEEdH"),
   (0x10411, "dPEEdBEEdTEEdDEEdCHEEdJEEdKAYdGAYdEFdVEEdETHdTHEEdESdZEEdESHdZHEEdERdELdEMdEN"),
   (0x10425, "dENGdOIdEWbSMALL LETTER LONG IeEeAeAHeOeOOdSHORT IeEeAeAHeOeOOdAYdOWdWUdYEEdH"),
   (0x10439, "dPEEdBEEdTEEdDEEdCHEEdJEEdKAYdGAYdEFdVEEdETHdTHEEdESdZEEdESHdZHEEdERdELdEMdEN"),
   (0x1044D, "dENGdOIdEWaSHAVIAN LETTER PEEPcTOTcKICKcFEEcTHIGHcSOcSUREcCHURCHcYEAcHUNGcBIB"),
   (0x1045B, "cDEADcGAGcVOWcTHEYcZOOcMEASUREcJUDGEcWOEcHA-HAcLOLLcMIMEcIFcEGGcASHcADOcONcWOOL"),
   (0x1046C, "cOUTcAHcROARcNUNcEATcAGEcICEcUPcOAKcOOZEcOILcAWEcAREcORcAIRcERRcARRAYcEARcIAN"),
   (0x1047F, "cYEWaOSMANYA LETTER ALEFcBAcTAcJAcXAcKHAcDEELcRAcSAcSHIINcDHAcCAYNcGAcFAcQAAF"),
   (0x1048F, "cKAAFcLAANcMIINcNUUNcWAWcHAcYAcAcEcIcOcUcAAcEEcOO"),
   (0x104A0, "bDIGIT ZEROcONEcTWOcTHREEcFOURcFIVEcSIXcSEVENcEIGHTcNINE"),
   (0x104B0, "aOSAGE CAPITAL LETTER AdAIdAINdAHdBRAdCHAdEHCHAdEdEINdHAdHYAdIdKAdEHKAdKYAdLA"),
   (0x104C0, "dMAdNAdOdOINdPAdEHPAdSAdSHAdTAdEHTAdTSAdEHTSAdTSHAdDHAdUdWAdKHAdGHAdZAdZHA"),
   (0x104D8, "bSMALL LETTER AdAIdAINdAHdBRAdCHAdEHCHAdEdEINdHAdHYAdIdKAdEHKAdKYAdLAdMAdNAdO"),
   (0x104EB, "dOINdPAdEHPAdSAdSHAdTAdEHTAdTSAdEHTSAdTSHAdDHAdUdWAdKHAdGHAdZAdZHA"),
   (0x10500, "aELBASAN LETTER AcBEcCEcCHEcDEcNDEcDHEcEIcEcFEcGEcGJEcHEcIcJEcKEcLEcLLEcMEcNE"),
   (0x10514, "cNAcNJEcOcPEcQEcREcRREcSEcSHEcTEcTHEcUcVEcXEcYcZEcZHEcGHEcGHAMMAcKHE"),
   (0x10530, "aCAUCASIAN ALBANIAN LETTER ALTdBETdGIMdDATdEBdZARLdEYNdZHILdTASdCHAdYOWDdZHA"),
   (0x1053C, "dIRBdSHAdLANdINYAdXEYNdDYANdCARdJHOXdKARdLYITdHEYTdQAYdAORdCHOYdCHIdCYAYdMAQ"),
   (0x1054D, "dQARdNOWCdDZYAYdSHAKdJAYNdONdTYAYdFAMdDZAYdCHATdPENdGHEYSdRATdSEYKdVEYZdTIWR"),
   (0x1055D, "dSHOYdIWNdCYAWdCAYNdYAYDdPIWRdKIW"),
   (0x1056F, "cCITATION MARKaVITHKUQI CAPITAL LETTER AdBBEdBEdCEdCHEdDEdDHEdEIdEdFEdGA"),
   (0x1057C, "dHAdHHAdIdIJEdJEdKAdLAdLLAdMEdNEdNJEdOdPEdQAdRE"),
   (0x1058C, "dSEdSHEdTEdTHEdUdVEdXE"), (0x10594, "dYdZE"),
   (0x10597, "bSMALL LETTER AdBBEdBEdCEdCHEdDEdDHEdEIdEdFEdGA"),
   (0x105A3, "dHAdHHAdIdIJEdJEdKAdLAdLLAdMEdNEdNJEdOdPEdQAdRE"),
   (0x105B3, "dSEdSHEdTEdTHEdUdVEdXE"), (0x105BB, "dYdZE"),
   (0x10600, "aLINEAR A SIGN AB001dAB002dAB003dAB004dAB005dAB006dAB007dAB008dAB009dAB010"),
   (0x1060A, "dAB011dAB013dAB016dAB017dAB020dAB021dAB021FdAB021MdAB022dAB022FdAB022MdAB023"),
   (0x10616, "dAB023MdAB024dAB026dAB027dAB028dA028BdAB029dAB030dAB031dAB034dAB037dAB038dAB039"),
   (0x10623, "dAB040dAB041dAB044dAB045dAB046dAB047dAB048dAB049dAB050dAB051dAB053dAB054dAB055"),
   (0x10630, "dAB056dAB057dAB058dAB059dAB060dAB061dAB065dAB066dAB067dAB069dAB070dAB073dAB074"),
   (0x1063D, "dAB076dAB077dAB078dAB079dAB080dAB081dAB082dAB085dAB086dAB087dA100-102dAB118"),
   (0x10649, "dAB120dA120BdAB122dAB123dAB131AdAB131BdA131CdAB164dAB171dAB180dAB188dAB191dA301"),
   (0x10656, "dA302dA303dA304dA305dA306dA307dA308dA309AdA309BdA309CdA310dA311dA312dA313A"),
   (0x10664, "dA313BdA313CdA314dA315dA316dA317dA318dA319dA320dA321dA322dA323dA324dA325dA326"),
   (0x10673, "dA327dA328dA329dA330dA331dA332dA333dA334dA335dA336dA337dA338dA339dA340dA341"),
   (0x10682, "dA342dA343dA344dA345dA346dA347dA348dA349dA350dA351dA352dA353dA354dA355dA356"),
   (0x10691, "dA357dA358dA359dA360dA361dA362dA363dA364dA365dA366dA367dA368dA369dA370dA371"),
   (0x106A0, "dA400-VASdA401-VASdA402-VASdA403-VASdA404-VASdA405-VASdA406-VASdA407-VAS"),
   (0x106A8, "dA408-VASdA409-VASdA410-VASdA411-VASdA412-VASdA413-VASdA414-VASdA415-VAS"),
   (0x106B0, "dA416-VASdA417-VASdA418-VASdA501dA502dA503dA504dA505dA506dA508dA509dA510dA511"),
   (0x106BD, "dA512dA513dA515dA516dA520dA521dA523dA524dA525dA526dA527dA528dA529dA530dA531"),
   (0x106CC, "dA532dA534dA535dA536dA537dA538dA539dA540dA541dA542dA545dA547dA548dA549dA550"),
   (0x106DB, "dA551dA552dA553dA554dA555dA556dA557dA559dA563dA564dA565dA566dA568dA569dA570"),
   (0x106EA, "dA571dA572dA573dA574dA575dA576dA577dA578dA579dA580dA581dA582dA583dA584dA585"),
   (0x106F9, "dA586dA587dA588dA589dA591dA592dA594dA595dA596dA598dA600dA601dA602dA603dA604"),
   (0x10708, "dA606dA608dA609dA610dA611dA612dA613dA614dA615dA616dA617dA618dA619dA620dA621"),
   (0x10717, "dA622dA623dA624dA626dA627dA628dA629dA634dA637dA638dA640dA642dA643dA644dA645"),
   (0x10726, "dA646dA648dA649dA651dA652dA653dA654dA655dA656dA657dA658dA659dA660dA661dA662"),
   (0x10735, "dA663dA664"),
   (0x10740, "dA701 AdA702 BdA703 DdA704 EdA705 FdA706 HdA707 JdA708 KdA709 LdA709-2 L2"),
   (0x1074A, "dA709-3 L3dA709-4 L4dA709-6 L6dA710 WdA711 XdA712 YdA713 OMEGAdA714 ABBdA715 BB"),
   (0x10753, "dA717 DDdA726 EYYYdA732 JE"), (0x10760, "dA800dA801dA802dA803dA804dA805dA806dA807"),
   (0x10780, "aMODIFIER LETTER SMALL CAPITAL AAcSUPERSCRIPT TRIANGULAR COLON"),
   (0x10782, "dHALF TRIANGULAR COLONcSMALL AEdCAPITAL BdB WITH HOOK"),
   (0x10787, "dDZ DIGRAPHfWITH RETROFLEX HOOKgCURLdDEZH DIGRAPHdD WITH TAILfHOOKgAND TAIL"),
   (0x1078E, "dREVERSED EdCLOSED REVERSED OPEN EdFENG DIGRAPHdRAMS HORNdCAPITAL GdG WITH HOOK"),
   (0x10794, "dCAPITAL G WITH HOOKdH WITH STROKEdCAPITAL HdHENG WITH HOOK"),
   (0x10798, "dDOTLESS J WITH STROKE AND HOOKdLS DIGRAPHdLZ DIGRAPHdL WITH BELT"),
   (0x1079C, "dCAPITAL L WITH BELTdL WITH RETROFLEX HOOK AND BELTdLEZHeWITH RETROFLEX HOOK"),
   (0x107A0, "dTURNED YfWITH BELTdO WITH STROKEdCAPITAL OEdCLOSED OMEGAdQ"),
   (0x107A6, "dTURNED R WITH LONG LEGiAND RETROFLEX HOOKdR WITH TAILfFISHHOOKdCAPITAL R"),
   (0x107AB, "dTC DIGRAPH WITH CURLdTS DIGRAPHfWITH RETROFLEX HOOKdTESH DIGRAPH"),
   (0x107AF, "dT WITH RETROFLEX HOOKdV WITH RIGHT HOOK"),
   (0x107B2, "dCAPITAL YcGLOTTAL STOP WITH STROKEcREVERSED GLOTTAL STOP WITH STROKE"),
   (0x107B5, "cBILABIAL CLICKcDENTAL CLICKcLATERAL CLICKcALVEOLAR CLICK"),
   (0x107B9, "cRETROFLEX CLICK WITH RETROFLEX HOOKcSMALL S WITH CURL"),
   (0x10800, "aCYPRIOT SYLLABLE AcEcIcOcUcJA"), (0x10808, "cJO"),
   (0x1080A, "cKAcKEcKIcKOcKUcLAcLEcLIcLOcLUcMAcMEcMIcMOcMUcNAcNEcNIcNOcNUcPAcPEcPIcPOcPUcRA"),
   (0x10824, "cREcRIcROcRUcSAcSEcSIcSOcSUcTAcTEcTIcTOcTUcWAcWEcWIcWO"), (0x10837, "cXAcXE"),
   (0x1083C, "cZA"),
   (0x1083F, "cZOaIMPERIAL ARAMAIC LETTER ALEPHdBETHdGIMELdDALETHdHEdWAWdZAYINdHETHdTETHdYODH"),
   (0x1084A, "dKAPHdLAMEDHdMEMdNUNdSAMEKHdAYINdPEdSADHEdQOPHdRESHdSHINdTAW"),
   (0x10857, "cSECTION SIGNcNUMBER ONEdTWOdTHREEdTENdTWENTYdONE HUNDREDeTHOUSANDdTEN THOUSAND"),
   (0x10860, "aPALMYRENE LETTER ALEPHcBETHcGIMELcDALETHcHEcWAWcZAYINcHETHcTETHcYODHcKAPH"),
   (0x1086B, "cLAMEDHcMEMcFINAL NUNcNUNcSAMEKHcAYINcPEcSADHEcQOPHcRESHcSHINcTAW"),
   (0x10877, "bLEFT-POINTING FLEURONbRIGHT-POINTING FLEURONbNUMBER ONEcTWOcTHREEcFOURcFIVE"),
   (0x1087E, "cTENcTWENTYaNABATAEAN LETTER FINAL ALEPHcALEPHcFINAL BETHcBETHcGIMELcDALETH"),
   (0x10886, "cFINAL HEcHEcWAWcZAYINcHETHcTETHcFINAL YODHcYODHcFINAL KAPHcKAPHcFINAL LAMEDH"),
   (0x10891, "cLAMEDHcFINAL MEMcMEMcFINAL NUNcNUNcSAMEKHcAYINcPEcSADHEcQOPHcRESHcFINAL SHIN"),
   (0x1089D, "cSHINcTAW"),
   (0x108A7, "bNUMBER ONEcTWOcTHREEcFOURbCRUCIFORM NUMBER FOURbNUMBER FIVEcTENcTWENTY"),
   (0x108AF, "cONE HUNDRED"),
   (0x108E0, "aHATRAN LETTER ALEPHcBETHcGIMELcDALETH-RESHcHEcWAWcZAYNcHETHcTETHcYODHcKAPH"),
   (0x108EB, "cLAMEDHcMEMcNUNcSAMEKHcAYNcPEcSADHEcQOPH"), (0x108F4, "cSHINcTAW"),
   (0x108FB, "bNUMBER ONEcFIVEcTENcTWENTYcONE HUNDREDaPHOENICIAN LETTER ALFcBETcGAMLcDELTcHE"),
   (0x10905, "cWAUcZAIcHETcTETcYODcKAFcLAMDcMEMcNUNcSEMKcAINcPEcSADEcQOFcROSHcSHINcTAU"),
   (0x10916, "bNUMBER ONEcTENcTWENTYcONE HUNDREDcTWOcTHREE"),
   (0x1091F, "bWORD SEPARATORaLYDIAN LETTER AcBcGcDcEcVcIcYcKcLcMcNcOcRcSScTcUcFcQcScTTcANcEN"),
   (0x10937, "cLYcNNcC"), (0x1093F, "bTRIANGULAR MARK"),
   (0x10980, "aMEROITIC HIEROGLYPHIC LETTER AdEdIdOdYAdWAdBAdBA-2dPAdMAdNAdNA-2dNEdNE-2dRA"),
   (0x1098F, "dRA-2dLAdKHAdHHAdSAdSA-2dSEdKAdQAdTAdTA-2dTEdTE-2dTOdDAcSYMBOL VIDJdVIDJ-2"),
   (0x109A0, "bCURSIVE LETTER AdEdIdOdYAdWAdBAdPAdMAdNAdNEdRAdLAdKHAdHHAdSAdARCHAIC SAdSEdKA"),
   (0x109B3, "dQAdTAdTEdTOdDA"),
   (0x109BC, "cFRACTION ELEVEN TWELFTHSdONE HALFcLOGOGRAM RMTdIMNcNUMBER ONEdTWOdTHREEdFOUR"),
   (0x109C4, "dFIVEdSIXdSEVENdEIGHTdNINEdTENdTWENTYdTHIRTYdFORTYdFIFTYdSIXTYdSEVENTY"),
   (0x109D2, "dONE HUNDREDdTWO HUNDREDdTHREE HUNDREDdFOUR HUNDREDdFIVE HUNDREDdSIX HUNDRED"),
   (0x109D8, "dSEVEN HUNDREDdEIGHT HUNDREDdNINE HUNDREDdONE THOUSANDdTWO THOUSAND"),
   (0x109DD, "dTHREE THOUSANDdFOUR THOUSANDdFIVE THOUSANDdSIX THOUSANDdSEVEN THOUSAND"),
   (0x109E2, "dEIGHT THOUSANDdNINE THOUSANDdTEN THOUSANDdTWENTY THOUSANDdTHIRTY THOUSAND"),
   (0x109E7, "dFORTY THOUSANDdFIFTY THOUSANDdSIXTY THOUSANDdSEVENTY THOUSANDdEIGHTY THOUSAND"),
   (0x109EC, "dNINETY THOUSANDdONE HUNDRED THOUSANDdTWO HUNDRED THOUSAND"),
   (0x109EF, "dTHREE HUNDRED THOUSANDdFOUR HUNDRED THOUSANDdFIVE HUNDRED THOUSAND"),
   (0x109F2, "dSIX HUNDRED THOUSANDdSEVEN HUNDRED THOUSANDdEIGHT HUNDRED THOUSAND"),
   (0x109F5, "dNINE HUNDRED THOUSANDcFRACTION ONE TWELFTHdTWO TWELFTHSdTHREE TWELFTHS"),
   (0x109F9, "dFOUR TWELFTHSdFIVE TWELFTHSdSIX TWELFTHSdSEVEN TWELFTHSdEIGHT TWELFTHS"),
   (0x109FE, "dNINE TWELFTHSdTEN TWELFTHSaKHAROSHTHI LETTER AbVOWEL SIGN IdUdVOCALIC R"),
   (0x10A05, "dEdO"),
   (0x10A0C, "cLENGTH MARKbSIGN DOUBLE RING BELOWcANUSVARAcVISARGAbLETTER KAcKHAcGAcGHA"),
   (0x10A15, "cCAcCHAcJA"),
   (0x10A19, "cNYAcTTAcTTHAcDDAcDDHAcNNAcTAcTHAcDAcDHAcNAcPAcPHAcBAcBHAcMAcYAcRAcLAcVAcSHA"),
   (0x10A2E, "cSSAcSAcZAcHAcKKAcTTTHAcTTTAcVHA"), (0x10A38, "bSIGN BAR ABOVEcCAUDAcDOT BELOW"),
   (0x10A3F, "bVIRAMAbDIGIT ONEcTWOcTHREEcFOURbNUMBER TENcTWENTYcONE HUNDREDdTHOUSAND"),
   (0x10A48, "bFRACTION ONE HALF"),
   (0x10A50, "bPUNCTUATION DOTcSMALL CIRCLEcCIRCLEcCRESCENT BARcMANGALAMcLOTUScDANDA"),
   (0x10A57, "cDOUBLE DANDAcLINES"),
   (0x10A60, "aOLD SOUTH ARABIAN LETTER HEeLAMEDHeHETHeMEMeQOPHeWAWeSHINeRESHeBETHeTAWeSAT"),
   (0x10A6B, "eKAPHeNUNeKHETHeSADHEeSAMEKHeFEeALEFeAYNeDHADHEeGIMELeDALETHeGHAYNeTETHeZAYN"),
   (0x10A79, "eDHALETHeYODHeTHAWeTHETHdNUMBER ONEeFIFTYdNUMERIC INDICATOR"),
   (0x10A80, "bNORTH ARABIAN LETTER HEHeLAMeHAHeMEEMeQAFeWAWeES-2eREHeBEHeTEHeES-1eKAFeNOON"),
   (0x10A8D, "eKHAHeSADeES-3eFEHeALEFeAINeDADeGEEMeDALeGHAINeTAHeZAINeTHALeYEHeTHEHeZAH"),
   (0x10A9D, "dNUMBER ONEeTENeTWENTY"),
   (0x10AC0, "aMANICHAEAN LETTER ALEPHcBETHcBHETHcGIMELcGHIMELcDALETHcHEcWAWbSIGN UD"),
   (0x10AC9, "bLETTER ZAYINcZHAYINcJAYINcJHAYINcHETHcTETHcYODHcKAPHcXAPHcKHAPHcLAMEDHcDHAMEDH"),
   (0x10AD5, "cTHAMEDHcMEMcNUNcSAMEKHcAYINcAAYINcPEcFEcSADHEcQOPHcXOPHcQHOPHcRESHcSHINcSSHIN"),
   (0x10AE4, "cTAWbABBREVIATION MARK ABOVEdBELOW"),
   (0x10AEB, "bNUMBER ONEcFIVEcTENcTWENTYcONE HUNDREDbPUNCTUATION STARcFLEURON"),
   (0x10AF2, "cDOUBLE DOT WITHIN DOTcDOT WITHIN DOTcDOTcTWO DOTScLINE FILLER"),
   (0x10B00, "aAVESTAN LETTER AcAAcAOcAAOcANcAANcAEcAEEcEcEEcOcOOcIcIIcUcUUcKEcXEcXYEcXVEcGE"),
   (0x10B15, "cGGEcGHEcCEcJEcTEcTHEcDEcDHEcTTEcPEcFEcBEcBHEcNGEcNGYEcNGVEcNEcNYEcNNEcMEcHME"),
   (0x10B2A, "cYYEcYEcVEcREcLEcSEcZEcSHEcZHEcSHYEcSSHEcHE"),
   (0x10B39, "bABBREVIATION MARKaTINY TWO DOTS OVER ONE DOT PUNCTUATION"),
   (0x10B3B, "aSMALL TWO DOTS OVER ONE DOT PUNCTUATION"),
   (0x10B3C, "aLARGE TWO DOTS OVER ONE DOT PUNCTUATIONbONE DOT OVER TWO DOTS PUNCTUATION"),
   (0x10B3E, "bTWO RINGS OVER ONE RING PUNCTUATIONbONE RING OVER TWO RINGS PUNCTUATION"),
   (0x10B40, "aINSCRIPTIONAL PARTHIAN LETTER ALEPHdBETHdGIMELdDALETHdHEdWAWdZAYINdHETHdTETH"),
   (0x10B49, "dYODHdKAPHdLAMEDHdMEMdNUNdSAMEKHdAYINdPEdSADHEdQOPHdRESHdSHINdTAW"),
   (0x10B58, "cNUMBER ONEdTWOdTHREEdFOURdTENdTWENTYdONE HUNDREDeTHOUSANDbPAHLAVI LETTER ALEPH"),
   (0x10B61, "dBETHdGIMELdDALETHdHEdWAW-AYIN-RESHdZAYINdHETHdTETHdYODHdKAPHdLAMEDHdMEM-QOPH"),
   (0x10B6D, "dNUNdSAMEKHdPEdSADHEdSHINdTAW"),
   (0x10B78, "cNUMBER ONEdTWOdTHREEdFOURdTENdTWENTYdONE HUNDREDeTHOUSAND"),
   (0x10B80, "aPSALTER PAHLAVI LETTER ALEPHdBETHdGIMELdDALETHdHEdWAW-AYIN-RESHdZAYINdHETH"),
   (0x10B88, "dYODHdKAPHdLAMEDHdMEM-QOPHdNUNdSAMEKHdPEdSADHEdSHINdTAW"),
   (0x10B99, "cSECTION MARKcTURNED SECTION MARKcFOUR DOTS WITH CROSSfDOT"),
   (0x10BA9, "cNUMBER ONEdTWOdTHREEdFOURdTENdTWENTYdONE HUNDRED"),
   (0x10C00, "aOLD TURKIC LETTER ORKHON AdYENISEI AeAEdORKHON IdYENISEI IeEdORKHON OeOE"),
   (0x10C08, "dYENISEI OEdORKHON ABdYENISEI ABdORKHON AEBdYENISEI AEBdORKHON AGdYENISEI AG"),
   (0x10C0F, "dORKHON AEGdYENISEI AEGdORKHON ADdYENISEI ADdORKHON AEDeEZdYENISEI EZdORKHON AY"),
   (0x10C17, "dYENISEI AYdORKHON AEYdYENISEI AEYdORKHON AEKdYENISEI AEKdORKHON OEK"),
   (0x10C1D, "dYENISEI OEKdORKHON ALdYENISEI ALdORKHON AELeELTeEMeANeAENdYENISEI AEN"),
   (0x10C26, "dORKHON ENTdYENISEI ENTdORKHON ENCdYENISEI ENCdORKHON ENYdYENISEI ENYeANG"),
   (0x10C2D, "dORKHON ENGdYENISEI AENGdORKHON EPeOPeICeECdYENISEI ECdORKHON AQdYENISEI AQ"),
   (0x10C36, "dORKHON IQdYENISEI IQdORKHON OQdYENISEI OQdORKHON ARdYENISEI ARdORKHON AEReAS"),
   (0x10C3E, "eAESeASHdYENISEI ASHdORKHON ESHdYENISEI ESHdORKHON ATdYENISEI ATdORKHON AET"),
   (0x10C46, "dYENISEI AETdORKHON OTeBASH"),
   (0x10C80, "bHUNGARIAN CAPITAL LETTER AeAAeEBeAMBeECeENCeECSeEDeANDeEeCLOSE EeEEeEFeEGeEGY"),
   (0x10C8F, "eEHeIeIIeEJeEKeAKeUNKeELeELYeEMeENeENYeOeOOeNIKOLSBURG OEeRUDIMENTA OEeOEEeEP"),
   (0x10CA1, "eEMPeEReSHORT EReESeESZeETeENTeETYeECHeUeUUeNIKOLSBURG UEeRUDIMENTA UEeEVeEZ"),
   (0x10CB0, "eEZSeENT-SHAPED SIGNeUS"),
   (0x10CC0, "cSMALL LETTER AeAAeEBeAMBeECeENCeECSeEDeANDeEeCLOSE EeEEeEFeEGeEGYeEHeIeIIeEJ"),
   (0x10CD3, "eEKeAKeUNKeELeELYeEMeENeENYeOeOOeNIKOLSBURG OEeRUDIMENTA OEeOEEeEPeEMPeER"),
   (0x10CE3, "eSHORT EReESeESZeETeENTeETYeECHeUeUUeNIKOLSBURG UEeRUDIMENTA UEeEVeEZeEZS"),
   (0x10CF1, "eENT-SHAPED SIGNeUS"),
   (0x10CFA, "cNUMBER ONEdFIVEdTENdFIFTYdONE HUNDREDeTHOUSANDaHANIFI ROHINGYA LETTER AdBAdPA"),
   (0x10D03, "dTAdTTAdJAdCAdHAdKHAdFAdDAdDDAdRAdRRAdZAdSAdSHAdKAdGAdLAdMAdNAdWAdKINNA WAdYA"),
   (0x10D19, "dKINNA YAdNGAdNYAdVAcVOWEL AdIdUdEdOcMARK SAKINdNA KHONNAcSIGN HARBAHAYdTAHALA"),
   (0x10D26, "dTANAdTASSI"), (0x10D30, "cDIGIT ZEROdONEdTWOdTHREEdFOURdFIVEdSIXdSEVENdEIGHTdNINE"),
   (0x10E60, "aRUMI DIGIT ONEcTWOcTHREEcFOURcFIVEcSIXcSEVENcEIGHTcNINEbNUMBER TENcTWENTY"),
   (0x10E6B, "cTHIRTYcFORTYcFIFTYcSIXTYcSEVENTYcEIGHTYcNINETYcONE HUNDREDcTWO HUNDRED"),
   (0x10E74, "cTHREE HUNDREDcFOUR HUNDREDcFIVE HUNDREDcSIX HUNDREDcSEVEN HUNDRED"),
   (0x10E79, "cEIGHT HUNDREDcNINE HUNDREDbFRACTION ONE HALFdQUARTERdTHIRDcTWO THIRDS"),
   (0x10E80, "aYEZIDI LETTER ELIFcBEcPEcPHEcTHEcSEcCIMcCHIMcCHHIMcHHAcXAcDALcZALcRAcRHAcZAcJA"),
   (0x10E91, "cSINcSHINcSADcDADcTAcZEcEYNcXHEYNcFAcVAdALTERNATE FORMcQAFcKAFcKHAFcGAFcLAMcMIM"),
   (0x10EA2, "cNUNcUMcWAWcOWcEWcHAYcYOTcET"),
   (0x10EAB, "bCOMBINING HAMZA MARKcMADDA MARKbHYPHENATION MARK"),
   (0x10EB0, "bLETTER LAM WITH DOT ABOVEcYOT WITH CIRCUMFLEX ABOVE"),
   (0x10F00, "aOLD SOGDIAN LETTER ALEPHdFINAL ALEPHdBETHdFINAL BETHdGIMELdHEdFINAL HEdWAW"),
   (0x10F08, "dZAYINdHETHdYODHdKAPHdLAMEDHdMEMdNUNdFINAL NUNfWITH VERTICAL TAILdSAMEKHdAYIN"),
   (0x10F13, "dALTERNATE AYINdPEdSADHEdFINAL SADHEfWITH VERTICAL TAILdRESH-AYIN-DALETHdSHIN"),
   (0x10F1A, "dTAWdFINAL TAWfWITH VERTICAL TAILcNUMBER ONEdTWOdTHREEdFOURdFIVEdTENdTWENTY"),
   (0x10F24, "dTHIRTYdONE HUNDREDcFRACTION ONE HALFcLIGATURE AYIN-DALETH"),
   (0x10F30, "aSOGDIAN LETTER ALEPHcBETHcGIMELcHEcWAWcZAYINcHETHcYODHcKAPHcLAMEDHcMEMcNUN"),
   (0x10F3C, "cSAMEKHcAYINcPEcSADHEcRESH-AYINcSHINcTAWcFETHcLESHbINDEPENDENT SHIN"),
   (0x10F46, "bCOMBINING DOT BELOWcTWO DOTS BELOWcDOT ABOVEcTWO DOTS ABOVEcCURVE ABOVEdBELOW"),
   (0x10F4C, "cHOOK ABOVEdBELOWcLONG HOOK BELOWcRESH BELOWcSTROKE BELOWbNUMBER ONEcTENcTWENTY"),
   (0x10F54, "cONE HUNDREDbPUNCTUATION TWO VERTICAL BARSfWITH DOTScCIRCLE WITH DOT"),
   (0x10F58, "cTWO CIRCLES WITH DOTScHALF CIRCLE WITH DOT"),
   (0x10F70, "aOLD UYGHUR LETTER ALEPHdBETHdGIMEL-HETHdWAWdZAYINdFINAL HETHdYODHdKAPHdLAMEDH"),
   (0x10F79, "dMEMdNUNdSAMEKHdPEdSADHEdRESHdSHINdTAWdLESHcCOMBINING DOT ABOVEeBELOW"),
   (0x10F84, "dTWO DOTS ABOVEfBELOWcPUNCTUATION BARdTWO BARSeDOTSdFOUR DOTS"),
   (0x10FB0, "aCHORASMIAN LETTER ALEPHcSMALL ALEPHcBETHcGIMELcDALETHcHEcWAWcCURLED WAWcZAYIN"),
   (0x10FB9, "cHETHcYODHcKAPHcLAMEDHcMEMcNUNcSAMEKHcAYINcPEcRESHcSHINcTAWbNUMBER ONEcTWO"),
   (0x10FC7, "cTHREEcFOURcTENcTWENTYcONE HUNDRED"),
   (0x10FE0, "aELYMAIC LETTER ALEPHcBETHcGIMELcDALETHcHEcWAWcZAYINcHETHcTETHcYODHcKAPHcLAMEDH"),
   (0x10FEC, "cMEMcNUNcSAMEKHcAYINcPEcSADHEcQOPHcRESHcSHINcTAWbLIGATURE ZAYIN-YODH")]

end Scriptlet.Text.CharacterNames
