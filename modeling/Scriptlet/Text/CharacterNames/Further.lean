/-
# Further names of characters

Controls have no names of their own, and some characters have a second name:
where the first one is wrong, or an abbreviation.
-/

namespace Scriptlet.Text.CharacterNames

def further : List (Nat × String) :=
  [(0x0, "aNULaSOHaSTART OF TEXTaEND OF TEXTcTRANSMISSIONaENQaACKaALERTaBACKSPACE"),
   (0x9, "aCHARACTER TABULATIONaEND OF LINEaLINE TABULATIONaFFaCARRIAGE RETURN"),
   (0xE, "aLOCKING-SHIFT ONEbZEROaDATA LINK ESCAPEaDC1aDC2aDC3aDC4aNAKaSYN"),
   (0x17, "aEND OF TRANSMISSION BLOCKaCANaEND OF MEDIUMaSUBaESCaFILE SEPARATOR"),
   (0x1D, "aGROUP SEPARATORaINFORMATION SEPARATOR TWOcONEaSP"),
   (0x7F, "aDELaPADaHIGH OCTET PRESETaBPHaNBHaINDaNELaSSAaEND OF SELECTED AREA"),
   (0x88, "aCHARACTER TABULATION SETcWITH JUSTIFICATIONaLINE TABULATION SET"),
   (0x8B, "aPARTIAL LINE DOWNcBACKWARDaREVERSE INDEXaSINGLE SHIFT TWOcTHREEaDCS"),
   (0x91, "aPRIVATE USE ONEcTWOaSET TRANSMIT STATEaCANCEL CHARACTERaMESSAGE WAITINGaSPA"),
   (0x97, "aEND OF GUARDED AREAaSOSaSGCaSCIaCONTROL SEQUENCE INTRODUCERaST"),
   (0x9D, "aOPERATING SYSTEM COMMANDaPMaAPCaNBSP"), (0xAD, "aSHY"),
   (0x1A2, "aLATIN CAPITAL LETTER GHAbSMALL LETTER GHA"), (0x34F, "aCGJ"), (0x61C, "aALM"),
   (0x709, "aSYRIAC SUBLINEAR COLON SKEWED LEFT"), (0xCDE, "aKANNADA LETTER LLLA"),
   (0xE9D, "aLAO LETTER FO FON"), (0xE9F, "dFAY"), (0xEA3, "cRO"), (0xEA5, "cLO"),
   (0xFD0, "aTIBETAN MARK BKA- SHOG GI MGO RGYAN"),
   (0x11EC, "aHANGUL JONGSEONG YESIEUNG-KIYEOKcYESIEUNG-SSANGKIYEOKcSSANGYESIEUNG"),
   (0x11EF, "cYESIEUNG-KHIEUKH"), (0x180B, "aFVS1aFVS2aFVS3aMVSaFVS4"),
   (0x200B, "aZWSPaZWNJaZWJaLRMaRLM"), (0x202A, "aLREaRLEaPDFaLROaRLOaNNBSP"),
   (0x205F, "aMMSPaWJ"), (0x2066, "aLRIaRLIaFSIaPDI"), (0x2118, "aWEIERSTRASS ELLIPTIC FUNCTION"),
   (0x2448, "aMICR ON US SYMBOLbDASH SYMBOL"),
   (0x2B7A, "aLEFTWARDS TRIANGLE-HEADED ARROW WITH DOUBLE VERTICAL STROKE"),
   (0x2B7C, "aRIGHTWARDS TRIANGLE-HEADED ARROW WITH DOUBLE VERTICAL STROKE"),
   (0xA015, "aYI SYLLABLE ITERATION MARK"), (0xAA6E, "aMYANMAR LETTER KHAMTI LLA"),
   (0xFE00, "aVS1aVS2aVS3aVS4aVS5aVS6aVS7aVS8aVS9aVS10aVS11aVS12aVS13aVS14aVS15aVS16"),
   (0xFE18, "aPRESENTATION FORM FOR VERTICAL RIGHT WHITE LENTICULAR BRACKET"), (0xFEFF, "aBOM"),
   (0x122D4, "aCUNEIFORM SIGN NU11 TENUdOVER NU11 BUR OVER BUR"),
   (0x16E56, "aMEDEFAIDRIN CAPITAL LETTER HdNG"), (0x16E76, "bSMALL LETTER HdNG"),
   (0x1B001, "aHENTAIGANA LETTER E-1"),
   (0x1D0C5, "aBYZANTINE MUSICAL SYMBOL FTHORA SKLIRON CHROMA VASIS"),
   (0xE0100, "aVS17aVS18aVS19aVS20aVS21aVS22aVS23aVS24aVS25aVS26aVS27aVS28aVS29aVS30aVS31"),
   (0xE010F, "aVS32aVS33aVS34aVS35aVS36aVS37aVS38aVS39aVS40aVS41aVS42aVS43aVS44aVS45aVS46"),
   (0xE011E, "aVS47aVS48aVS49aVS50aVS51aVS52aVS53aVS54aVS55aVS56aVS57aVS58aVS59aVS60aVS61"),
   (0xE012D, "aVS62aVS63aVS64aVS65aVS66aVS67aVS68aVS69aVS70aVS71aVS72aVS73aVS74aVS75aVS76"),
   (0xE013C, "aVS77aVS78aVS79aVS80aVS81aVS82aVS83aVS84aVS85aVS86aVS87aVS88aVS89aVS90aVS91"),
   (0xE014B, "aVS92aVS93aVS94aVS95aVS96aVS97aVS98aVS99aVS100aVS101aVS102aVS103aVS104aVS105"),
   (0xE0159, "aVS106aVS107aVS108aVS109aVS110aVS111aVS112aVS113aVS114aVS115aVS116aVS117aVS118"),
   (0xE0166, "aVS119aVS120aVS121aVS122aVS123aVS124aVS125aVS126aVS127aVS128aVS129aVS130aVS131"),
   (0xE0173, "aVS132aVS133aVS134aVS135aVS136aVS137aVS138aVS139aVS140aVS141aVS142aVS143aVS144"),
   (0xE0180, "aVS145aVS146aVS147aVS148aVS149aVS150aVS151aVS152aVS153aVS154aVS155aVS156aVS157"),
   (0xE018D, "aVS158aVS159aVS160aVS161aVS162aVS163aVS164aVS165aVS166aVS167aVS168aVS169aVS170"),
   (0xE019A, "aVS171aVS172aVS173aVS174aVS175aVS176aVS177aVS178aVS179aVS180aVS181aVS182aVS183"),
   (0xE01A7, "aVS184aVS185aVS186aVS187aVS188aVS189aVS190aVS191aVS192aVS193aVS194aVS195aVS196"),
   (0xE01B4, "aVS197aVS198aVS199aVS200aVS201aVS202aVS203aVS204aVS205aVS206aVS207aVS208aVS209"),
   (0xE01C1, "aVS210aVS211aVS212aVS213aVS214aVS215aVS216aVS217aVS218aVS219aVS220aVS221aVS222"),
   (0xE01CE, "aVS223aVS224aVS225aVS226aVS227aVS228aVS229aVS230aVS231aVS232aVS233aVS234aVS235"),
   (0xE01DB, "aVS236aVS237aVS238aVS239aVS240aVS241aVS242aVS243aVS244aVS245aVS246aVS247aVS248"),
   (0xE01E8, "aVS249aVS250aVS251aVS252aVS253aVS254aVS255aVS256"),
   (0x0, "aNULLaSTART OF HEADINGaSTXaETXaEOTaENQUIRYaACKNOWLEDGEaBELaBS"),
   (0x9, "aHORIZONTAL TABULATIONaEOLaVERTICAL TABULATIONaFORM FEEDaCRaSHIFT OUTbINaDLE"),
   (0x11, "aDEVICE CONTROL ONEcTWOcTHREEcFOURaNEGATIVE ACKNOWLEDGEaSYNCHRONOUS IDLEaETB"),
   (0x18, "aCANCELaEOMaSUBSTITUTEaESCAPEaFSaGSaRECORD SEPARATORaUNIT SEPARATOR"),
   (0x7F, "aDELETEaPADDING CHARACTERaHOPaBREAK PERMITTED HEREaNO BREAK HEREaINDEX"),
   (0x85, "aNEXT LINEaSTART OF SELECTED AREAaESAaHORIZONTAL TABULATION SET"),
   (0x89, "cWITH JUSTIFICATIONaVERTICAL TABULATION SETaPARTIAL LINE FORWARDcUP"),
   (0x8D, "aREVERSE LINE FEEDaSINGLE-SHIFT-2aSINGLE-SHIFT-3aDEVICE CONTROL STRING"),
   (0x91, "aPRIVATE USE-1bUSE-2aSTSaCCHaMWaSTART OF GUARDED AREAaEND OF PROTECTED AREA"),
   (0x98, "aSTART OF STRINGaSINGLE GRAPHIC CHARACTER INTRODUCERbCHARACTER INTRODUCERaCSI"),
   (0x9C, "aSTRING TERMINATORaOSCaPRIVACY MESSAGEaAPPLICATION PROGRAM COMMAND"),
   (0xFEFF, "aBYTE ORDER MARK"), (0x9, "aHTaLFaVT"), (0xE, "aSOaSI"),
   (0x1C, "aINFORMATION SEPARATOR FOURcTHREEaRSaUS"), (0x88, "aHTSaHTJaVTSaPLDaPLUaRIaSS2aSS3"),
   (0x91, "aPU1aPU2"), (0x96, "aSTART OF PROTECTED AREAaEPA"), (0xFEFF, "aZWNBSP"),
   (0x9, "aTABaLINE FEED"), (0xA, "aNEW LINE"), (0xA, "aNL")]

end Scriptlet.Text.CharacterNames
