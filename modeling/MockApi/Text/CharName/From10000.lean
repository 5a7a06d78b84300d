/-!
# Names of characters: U+10000 to U+12FF2

* `namesFrom10000` : runs of characters with their names, in the form that `Text.charOfName?` reads.

The names are those of Unicode 14.
-/

namespace MockApi.Text

def namesFrom10000 : List (Nat × List String) :=
   [(0x10000,
    ["aLINEAR B SYLLABLE B008 Au38 Eu28 Iu61 Ou10 Uu01 DAu45 DEu07 DIu14 DOu51 DUv7 JAu46 JE"]),
    (0x1000D,
    ["aLINEAR B SYLLABLE B036 JOu65 JUu77 KAu44 KEu67 KIu70 KOu81 KUv0 MAu13 MEu73 MIu15 MOu23 M",
     "Uu06 NAu24 NEu30 NIu52 NOv5 NUu03 PAu72 PEu39 PIu11 POu50 PUu16 QAu78 QEu21 QIu32 QO"]),
    (0x10028,
    ["aLINEAR B SYLLABLE B060 RAu27 REu53 RIu02 ROu26 RUu31 SAu09 SEu41 SIu12 SOu58 SUv9 TAu04 T",
     "Eu37 TIu05 TOu69 TUu54 WAu75 WEu40 WIv2 WO"]),
    (0x1003C,
    ["aLINEAR B SYLLABLE B017 ZAu74 ZE"]),
    (0x1003F,
    ["aLINEAR B SYLLABLE B020 ZOv5 A2u43 A3u85 AUu71 DWEu90 DWOu48 NWAu29 PU2u62 PTEu76 RA2u33 R",
     "A3u68 RO2v6 TA2u87 TWEu91 TWO"]),
    (0x10050,
    ["aLINEAR B SYMBOL B018t9s22s34s47t9s56s63t4s79s82t3t6t9"]),
    (0x10080,
    ["aLINEAR B IDEOGRAM B100 MANv2 WOMANv4 DEERv5 EQUIDwF MAREwM STALLIONv6F EWEwM RAMv7F SHE-G",
     "OATwM HE-GOATv8F SOWwM BOARv9F COWwM BULLu20 WHEATv1 BARLEYv2 OLIVEv3 SPICEv5 CYPERUSjMONO",
     "GRAM B127 KAPOv8 KANAKOjIDEOGRAM B130 OILv1 WINEv2jMONOGRAM B133 AREPAv5 MERIjIDEOGRAM B14",
     "0 BRONZEv1 GOLDv2v5 WOOLv6u50v1 HORNv2v3v4jMONOGRAM B156 TURO2jIDEOGRAM B157v8v9 CLOTHu60v",
     "1v2 GARMENTv3 ARMOURv4v5v6v7v8v9u70v1v2v3 MONTHv4v6 TREEv7v8v9u80v1v2v3v4"]),
    (0x100C0,
    ["aLINEAR B IDEOGRAM B185v9u90v1 HELMETt220 FOOTSTOOLv5 BATHTUBu30 SPEARv1 ARROWv2v3 SWORDv4",
     "v6u40 WHEELED CHARIOTv1 CHARIOTv2 CHARIOT FRAMEv3 WHEELv5v6jMONOGRAM B247 DIPTEjIDEOGRAM B",
     "248v9u51v2v3v4 DARTv5v6v7v8v9sVESSEL B155zB200zB201zB202zB203zB204zB205zB206zB207zB208zB20",
     "9zB210zB211zB212zB213zB214zB215zB216zB217zB218zB219zB221zB222zB226zB227zB228zB229zB250zB30",
     "5"]),
    (0x10100,
    ["aAEGEAN WORD SEPARATOR LINEwDOThCHECK MARK"]),
    (0x10107,
    ["aAEGEAN NUMBER ONEoTWOpHREEoFOURpIVEoSIXpEVENoEIGHToNINEoTENpWENTYpHIRTYoFORTYpIFTYoSIXTYp",
     "EVENTYoEIGHTYoNINETYoONE HUNDREDoTWO HUNDREDpHREE HUNDREDoFOUR HUNDREDpIVE HUNDREDoSIX HUN",
     "DREDpEVEN HUNDREDoEIGHT HUNDREDoNINE HUNDREDoONE THOUSANDoTWO THOUSANDpHREE THOUSANDoFOUR ",
     "THOUSANDpIVE THOUSANDoSIX THOUSANDpEVEN THOUSANDoEIGHT THOUSANDoNINE THOUSANDoTEN THOUSAND",
     "pWENTY THOUSANDpHIRTY THOUSANDoFORTY THOUSANDpIFTY THOUSANDoSIXTY THOUSANDpEVENTY THOUSAND",
     "oEIGHTY THOUSANDoNINETY THOUSAND"]),
    (0x10137,
    ["aAEGEAN WEIGHT BASE UNIToFIRST SUBUNIToSECOND SUBUNIToTHIRD SUBUNIToFOURTH SUBUNIThDRY MEA",
     "SURE FIRST SUBUNIThLIQUID MEASURE FIRST SUBUNIThMEASURE SECOND SUBUNITpTHIRD SUBUNITaGREEK",
     " ACROPHONIC ATTIC ONE QUARTERzE HALFzE DRACHMAxFIVEzFTYzVE HUNDREDzVE THOUSANDzFTY THOUSAN",
     "DzVE TALENTSxTEN TALENTSxFIFTY TALENTSxONE HUNDRED TALENTSxFIVE HUNDRED TALENTSxONE THOUSA",
     "ND TALENTSxFIVE THOUSAND TALENTSzVE STATERSxTEN STATERSxFIFTY STATERSxONE HUNDRED STATERSx",
     "FIVE HUNDRED STATERSxONE THOUSAND STATERSxTEN THOUSAND STATERSxFIFTY THOUSAND STATERSxTEN ",
     "MNASrHERAEUM ONE PLETHRONrTHESPIAN ONErHERMIONIAN ONErEPIDAUREAN TWOrTHESPIAN TWOrCYRENAIC",
     " TWO DRACHMASrEPIDAUREAN TWO DRACHMASrTROEZENIAN FIVEzAN TENzAN TEN ALTERNATE FORMrHERMION",
     "IAN TENrMESSENIAN TENrTHESPIAN TENz THIRTYsROEZENIAN FIFTYzAN FIFTY ALTERNATE FORMrHERMION",
     "IAN FIFTYrTHESPIAN FIFTYz ONE HUNDREDz THREE HUNDREDrEPIDAUREAN FIVE HUNDREDrTROEZENIAN FI",
     "VE HUNDREDsHESPIAN FIVE HUNDREDrCARYSTIAN FIVE HUNDREDrNAXIAN FIVE HUNDREDrTHESPIAN ONE TH",
     "OUSANDz FIVE THOUSANDrDELPHIC FIVE MNASrSTRATIAN FIFTY MNASgONE HALF SIGNt ALTERNATE FORM"]),
    (0x10177,
    ["aGREEK TWO THIRDS SIGNhHREE QUARTERS SIGNgYEAR SIGNgTALENT SIGNgDRACHMA SIGNgOBOL SIGNgTWO",
     " OBOLS SIGNhHREE OBOLS SIGNgFOUR OBOLS SIGNhIVE OBOLS SIGNgMETRETES SIGNgKYATHOS BASE SIGN",
     "gLITRA SIGNgOUNKIA SIGNgXESTES SIGNgARTABE SIGNiOURA SIGNgGRAMMA SIGNgTRYBLION BASE SIGNgZ",
     "ERO SIGNgONE QUARTER SIGNgSINUSOID SIGNgINDICTION SIGNaNOMISMA SIGN"]),
    (0x10190,
    ["aROMAN SEXTANS SIGNgUNCIA SIGNgSEMUNCIA SIGNiXTULA SIGNgDIMIDIA SEXTULA SIGNgSILIQUA SIGNg",
     "DENARIUS SIGNgQUINARIUS SIGNgSESTERTIUS SIGNgDUPONDIUS SIGNgAS SIGNgCENTURIAL SIGNaASCIA S",
     "YMBOL"]),
    (0x101A0,
    ["aGREEK SYMBOL TAU RHO"]),
    (0x101D0,
    ["aPHAISTOS DISC SIGN PEDESTRIANuLUMED HEADtTATTOOED HEADtCAPTIVEuHILDtWOMANtHELMETtGAUNTLET",
     "tTIARAtARROWtBOWtSHIELDtCLUBtMANACLESvTTOCKtSAWtLIDtBOOMERANGtCARPENTRY PLANEtDOLIUMtCOMBt",
     "SLINGtCOLUMNtBEEHIVEtSHIPtHORNuIDEtBULLS LEGtCATtRAMtEAGLEtDOVEtTUNNYtBEEtPLANE TREEtVINEt",
     "PAPYRUStROSETTEtLILYtOX BACKtFLUTEtGRATERtSTRAINERuMALL AXEtWAVY BANDtCOMBINING OBLIQUE ST",
     "ROKE"]),
    (0x10280,
    ["aLYCIAN LETTER AoEoBpHoGoDoIoWoZoTHoJoKoQoLoMoNoMMoNNoUoPoKKoRoSoTpToANoENoHoX"]),
    (0x102A0,
    ["aCARIAN LETTER AoP2oDoLoUUUoRoLDoA2oQoBoMoOoD2oToSHq2poC-18oUoNNoXoNoTT2oPoSSoIoEoUUUUoKp2",
     "oNDoUUoGp2oSTq2oNGoIIoC-39oTToUUU2oRRoMBq2q3q4oLD2oE2oUUU3"]),
    (0x102E0,
    ["aCOPTIC EPACT THOUSANDS MARKnDIGIT ONEtTWOuHREEtFOURuIVEtSIXuEVENtEIGHTtNINEnNUMBER TENvWE",
     "NTYvHIRTYuFORTYvIFTYuSIXTYvEVENTYuEIGHTYuNINETYuONE HUNDREDuTWO HUNDREDvHREE HUNDREDuFOUR ",
     "HUNDREDvIVE HUNDREDuSIX HUNDREDvEVEN HUNDREDuEIGHT HUNDREDuNINE HUNDRED"]),
    (0x10300,
    ["aOLD ITALIC LETTER AsBEsKEsDEsEsVEsZEsHEsTHEsIsKAsELtMtNtSHsOsPEsSHEsKUsERtSsTEsUsEKSsPHEs",
     "KHEsEFtRSsCHEsIIsUUsESSlNUMERAL ONEtFIVEtTENtFIFTY"]),
    (0x1032D,
    ["aOLD ITALIC LETTER YEsNORTHERN TSEsSOUTHERN TSEaGOTHIC LETTER AHSAoBAIRKANoGIBAoDAGSoAIHVU",
     "SoQAIRTHRAoIUJAoHAGLoTHIUTHoEISoKUSMAoLAGUSoMANNAoNAUTHSoJERoURUSoPAIRTHRAoNINETYoRAIDAoSA",
     "UILoTEIWSoWINJAoFAIHUoIGGWSoHWAIRoOTHALoNINE HUNDRED"]),
    (0x10350,
    ["aOLD PERMIC LETTER ANsBURsGAIsDOIsEsZHOIsDZHOIsZATAsDZITAsIsKOKEsLEIsMENOEsNENOEsVOOIsPEEI",
     "sREIsSIIsTAIsUsCHERYsSHOOIuCHOOIsYRYtERUsOtOsEFsHAsTSIUsVERsYERvItATsIEsYUtAsIAaCOMBINING ",
     "OLD PERMIC LETTER ANzER DOIzER ZATAzER NENOEzER SII"]),
    (0x10380,
    ["aUGARITIC LETTER ALPAqBETAqGAMLAqKHAqDELTAqHOqWOqZETAqHOTAqTETqYODqKAFqSHINqLAMDAqMEMqDHAL",
     "qNUNqZUqSAMKAqAINqPUqSADEqQOPAqRASHAqTHANNAqGHAINqTOqIqUqSSU"]),
    (0x1039F,
    ["aUGARITIC WORD DIVIDERaOLD PERSIAN SIGN ArIrUrKAsUrGAsUrXArCArJAsIrTAsUrDAsIsUrTHArPArBArF",
     "ArNAsUrMAsIsUrYArVAsIrRAsUrLArSArZArSHAsSArHA"]),
    (0x103C8,
    ["aOLD PERSIAN SIGN AURAMAZDAAzAA-2zAAHArXSHAAYATHIYArDAHYAAUSHzH-2rBAGAsUUMISHmWORD DIVIDER",
     "mNUMBER ONEtTWOuENuWENTYtHUNDRED"]),
    (0x10400,
    ["aDESERET CAPITAL LETTER LONG IzNG EzNG AzNG AHzNG OzNG OOxSHORT IzORT EzORT AzORT AHzORT O",
     "zORT OOxAYxOWxWUxYEExHxPEExBEExTEExDEExCHEExJEExKAYxGAYxEFxVEExETHxTHEExESxZEExESHxZHEExER",
     "yLyMyNzGxOIxEWiSMALL LETTER LONG Iz Ez Az AHz Oz OOvSHORT IzT EzT AzT AHzT OzT OOvAYvOWvWU",
     "vYEEvHvPEEvBEEvTEEvDEEvCHEEvJEEvKAY"]),
    (0x10440,
    ["aDESERET SMALL LETTER GAYvEFvVEEvETHvTHEEvESvZEEvESHvZHEEvERwLwMwNxGvOIvEWaSHAVIAN LETTER ",
     "PEEPpTOTpKICKpFEEpTHIGHpSOqUREpCHURCHpYEApHUNGpBIBpDEADpGAGpVOWpTHEYpZOOpMEASUREpJUDGEpWOE",
     "pHA-HApLOLLpMIMEpIFpEGGpASHqDOpONpWOOLpOUTpAHpROARpNUNpEATpAGEpICEpUPpOAKqOZEqILpAWEqREpOR",
     "pAIRpERRpARRAYpEARpIANpYEW"]),
    (0x10480,
    ["aOSMANYA LETTER ALEFpBApTApJApXApKHApDEELpRApSAqHIINpDHApCAYNpGApFApQAAFpKAAFpLAANpMIINpNU",
     "UNpWAWpHApYApApEpIpOpUpAApEEpOO"]),
    (0x104A0,
    ["aOSMANYA DIGIT ZEROoONEoTWOpHREEoFOURpIVEoSIXpEVENoEIGHToNINE"]),
    (0x104B0,
    ["aOSAGE CAPITAL LETTER AwIxNwHvBRAvCHAvEHCHAwwINvHAwYAvIvKAvEHKAvKYAvLAvMAvNAvOwINvPAvEHPAv",
     "SAwHAvTAvEHTAvTSAvEHTSAvTSHAvDHAvUvWAvKHAvGHAvZAwHA"]),
    (0x104D8,
    ["aOSAGE SMALL LETTER AuIvNuHtBRAtCHAtEHCHAuuINtHAuYAtItKAtEHKAtKYAtLAtMAtNAtOuINtPAtEHPAtSA",
     "uHAtTAtEHTAtTSAtEHTSAtTSHAtDHAtUtWAtKHAtGHAtZAuHA"]),
    (0x10500,
    ["aELBASAN LETTER ApBEpCEqHEpDEpNDEpDHEpEIqpFEpGEqJEpHEpIpJEpKEpLEqLEpMEpNEqAqJEpOpPEpQEpREq",
     "REpSEqHEpTEqHEpUpVEpXEpYpZEqHEpGHErAMMApKHE"]),
    (0x10530,
    ["aCAUCASIAN ALBANIAN LETTER ALTz BETz GIMz DATz EBz ZARLz EYNz ZHILz TASz CHAz YOWDz ZHAz I",
     "RBz SHAz LANz INYAz XEYNz DYANz CARz JHOXz KARz LYITz HEYTz QAYz AORz CHOYz CHIz CYAYz MAQ",
     "z QARz NOWCz DZYAYz SHAKz JAYNz ONz TYAYz FAMz DZAYz CHATz PENz GHEYSz RATz SEYKz VEYZz TI",
     "WRz SHOYz IWNz CYAWz CAYNz YAYDz PIWRz KIW"]),
    (0x1056F,
    ["aCAUCASIAN ALBANIAN CITATION MARKaVITHKUQI CAPITAL LETTER AyBBEzEyCEzHEyDEzHEyEIzyFEyGA"]),
    (0x1057C,
    ["aVITHKUQI CAPITAL LETTER HAzHAyIzJEyJEyKAyLAzLAyMEyNEzJEyOyPEyQAyRE"]),
    (0x1058C,
    ["aVITHKUQI CAPITAL LETTER SEzHEyTEzHEyUyVEyXE"]),
    (0x10594,
    ["aVITHKUQI CAPITAL LETTER YyZE"]),
    (0x10597,
    ["aVITHKUQI SMALL LETTER AwBBExEwCExHEwDExHEwEIxwFEwGA"]),
    (0x105A3,
    ["aVITHKUQI SMALL LETTER HAxHAwIxJEwJEwKAwLAxLAwMEwNExJEwOwPEwQAwRE"]),
    (0x105B3,
    ["aVITHKUQI SMALL LETTER SExHEwTExHEwUwVEwXE"]),
    (0x105BB,
    ["aVITHKUQI SMALL LETTER YwZE"]),
    (0x10600,
    ["aLINEAR A SIGN AB001s2s3s4s5s6s7s8s9r10s1s3s6s7r20s1tFtMs2tFtMs3tMs4s6s7s8p028BpB029r30s1s",
     "4s7s8s9r40s1s4s5s6s7s8s9r50s1s3s4s5s6s7s8s9r60s1s5s6s7s9r70s3s4s6s7s8"]),
    (0x10640,
    ["aLINEAR A SIGN AB079r80s1s2s5s6s7p100-102pB118r20p120BpB122s3r31AtBp131CpB164r71r80s8r91p3",
     "01r2r3r4r5r6r7r8r9AsBsCq10r1r2r3AsBsCr4r5r6r7r8r9q20r1r2r3r4r5r6r7r8r9q30r1r2r3r4r5r6r7r8r",
     "9"]),
    (0x10680,
    ["aLINEAR A SIGN A340r1r2r3r4r5r6r7r8r9q50r1r2r3r4r5r6r7r8r9q60r1r2r3r4r5r6r7r8r9q70r1p400-V",
     "ASr1-VASr2-VASr3-VASr4-VASr5-VASr6-VASr7-VASr8-VASr9-VASq10-VASr1-VASr2-VASr3-VASr4-VASr5-",
     "VASr6-VASr7-VASr8-VASp501r2r3r4r5r6r8r9q10r1r2r3r5"]),
    (0x106C0,
    ["aLINEAR A SIGN A516q20r1r3r4r5r6r7r8r9q30r1r2r4r5r6r7r8r9q40r1r2r5r7r8r9q50r1r2r3r4r5r6r7r",
     "9q63r4r5r6r8r9q70r1r2r3r4r5r6r7r8r9q80r1r2r3r4r5r6r7r8r9q91r2r4"]),
    (0x10700,
    ["aLINEAR A SIGN A595r6r8p600r1r2r3r4r6r8r9q10r1r2r3r4r5r6r7r8r9q20r1r2r3r4r6r7r8r9q34r7r8q4",
     "0r2r3r4r5r6r8r9q51r2r3r4r5r6r7r8r9q60r1r2r3r4"]),
    (0x10740,
    ["aLINEAR A SIGN A701 Ar2 Br3 Dr4 Er5 Fr6 Hr7 Jr8 Kr9 Ls-2 L2t3 L3t4 L4t6 L6q10 Wr1 Xr2 Yr3 ",
     "OMEGAr4 ABBr5 BBr7 DDq26 EYYYq32 JE"]),
    (0x10760,
    ["aLINEAR A SIGN A800r1r2r3r4r5r6r7"]),
    (0x10780,
    ["aMODIFIER LETTER SMALL CAPITAL AArUPERSCRIPT TRIANGULAR COLONzPT HALF TRIANGULAR COLONrMAL",
     "L AEwCAPITAL BwB WITH HOOK"]),
    (0x10787,
    ["aMODIFIER LETTER SMALL DZ DIGRAPHzDIGRAPH WITH RETROFLEX HOOKzDIGRAPH WITH CURLxEZH DIGRAP",
     "Hx WITH TAILzITH HOOKzITH HOOK AND TAILwREVERSED EwCLOSED REVERSED OPEN EwFENG DIGRAPHwRAM",
     "S HORNwCAPITAL GwG WITH HOOKwCAPITAL G WITH HOOKwH WITH STROKEwCAPITAL HwHENG WITH HOOKwDO",
     "TLESS J WITH STROKE AND HOOKwLS DIGRAPHxZ DIGRAPHx WITH BELTwCAPITAL L WITH BELTwL WITH RE",
     "TROFLEX HOOK AND BELTxEZHzH WITH RETROFLEX HOOKwTURNED YzNED Y WITH BELTwO WITH STROKEwCAP",
     "ITAL OExLOSED OMEGAwQwTURNED R WITH LONG LEGzNED R WITH LONG LEG AND RETROFLEX HOOKwR WITH",
     " TAILzITH FISHHOOKwCAPITAL RwTC DIGRAPH WITH CURLxS DIGRAPHzDIGRAPH WITH RETROFLEX HOOKxES",
     "H DIGRAPHx WITH RETROFLEX HOOKwV WITH RIGHT HOOK"]),
    (0x107B2,
    ["aMODIFIER LETTER SMALL CAPITAL YqGLOTTAL STOP WITH STROKEqREVERSED GLOTTAL STOP WITH STROK",
     "EqBILABIAL CLICKqDENTAL CLICKqLATERAL CLICKqALVEOLAR CLICKqRETROFLEX CLICK WITH RETROFLEX ",
     "HOOKqSMALL S WITH CURL"]),
    (0x10800,
    ["aCYPRIOT SYLLABLE ArErIrOrUrJA"]),
    (0x10808,
    ["aCYPRIOT SYLLABLE JO"]),
    (0x1080A,
    ["aCYPRIOT SYLLABLE KAsEsIsOsUrLAsEsIsOsUrMAsEsIsOsUrNAsEsIsOsUrPAsEsIsOsUrRAsEsIsOsUrSAsEsI",
     "sOsUrTAsEsIsOsUrWAsEsIsO"]),
    (0x10837,
    ["aCYPRIOT SYLLABLE XAsE"]),
    (0x1083C,
    ["aCYPRIOT SYLLABLE ZA"]),
    (0x1083F,
    ["aCYPRIOT SYLLABLE ZOaIMPERIAL ARAMAIC LETTER ALEPHyBETHyGIMELyDALETHyHEyWAWyZAYINyHETHyTET",
     "HyYODHyKAPHyLAMEDHyMEMyNUNySAMEKHyAYINyPEySADHEyQOPHyRESHySHINyTAW"]),
    (0x10857,
    ["aIMPERIAL ARAMAIC SECTION SIGNrNUMBER ONEyTWOzHREEzENzWENTYyONE HUNDREDzNE THOUSANDyTEN TH",
     "OUSANDaPALMYRENE LETTER ALEPHrBETHrGIMELrDALETHrHErWAWrZAYINrHETHrTETHrYODHrKAPHrLAMEDHrME",
     "MrFINAL NUNrNUNrSAMEKHrAYINrPErSADHErQOPHrRESHrSHINrTAWmFT-POINTING FLEURONkRIGHT-POINTING",
     " FLEURONkNUMBER ONErTWOsHREErFOURsIVErTENsWENTYaNABATAEAN LETTER FINAL ALEPHrALEPHrFINAL B",
     "ETHrBETHrGIMELrDALETHrFINAL HErHErWAWrZAYINrHETHrTETHrFINAL YODHrYODHrFINAL KAPHrKAPHrFINA",
     "L LAMEDHrLAMEDHrFINAL MEMrMEMrFINAL NUNrNUNrSAMEKH"]),
    (0x10897,
    ["aNABATAEAN LETTER AYINrPErSADHErQOPHrRESHrFINAL SHINrSHINrTAW"]),
    (0x108A7,
    ["aNABATAEAN NUMBER ONErTWOsHREErFOURkCRUCIFORM NUMBER FOURkNUMBER FIVErTENsWENTYrONE HUNDRE",
     "D"]),
    (0x108E0,
    ["aHATRAN LETTER ALEPHoBETHoGIMELoDALETH-RESHoHEoWAWoZAYNoHETHoTETHoYODHoKAPHoLAMEDHoMEMoNUN",
     "oSAMEKHoAYNoPEoSADHEoQOPH"]),
    (0x108F4,
    ["aHATRAN LETTER SHINoTAW"]),
    (0x108FB,
    ["aHATRAN NUMBER ONEoFIVEoTENpWENTYoONE HUNDREDaPHOENICIAN LETTER ALFsBETsGAMLsDELTsHEsWAUsZ",
     "AIsHETsTETsYODsKAFsLAMDsMEMsNUNsSEMKsAINsPEsSADEsQOFsROSHsSHINsTAUlNUMBER ONEsTENtWENTYsON",
     "E HUNDREDsTWOtHREE"]),
    (0x1091F,
    ["aPHOENICIAN WORD SEPARATORaLYDIAN LETTER AoBoGoDoEoVoIoYoKoLoMoNoOoRoSSoToUoFoQoSoTToANoEN",
     "oLYoNNoC"]),
    (0x1093F,
    ["aLYDIAN TRIANGULAR MARK"]),
    (0x10980,
    ["aMEROITIC HIEROGLYPHIC LETTER AzTER EzTER IzTER OzTER YAzTER WAzTER BAzTER BA-2zTER PAzTER",
     " MAzTER NAzTER NA-2zTER NEzTER NE-2zTER RAzTER RA-2zTER LAzTER KHAzTER HHAzTER SAzTER SA-2",
     "zTER SEzTER KAzTER QAzTER TAzTER TA-2zTER TEzTER TE-2zTER TOzTER DAwSYMBOL VIDJzBOL VIDJ-2",
     "jCURSIVE LETTER AyEyIyOyYAyWAyBAyPAyMAyNAzEyRAyLAyKHAyHHAySAyARCHAIC SAySEyKAyQAyTAzEzOyDA"]),
    (0x109BC,
    ["aMEROITIC CURSIVE FRACTION ELEVEN TWELFTHSz ONE HALFrLOGOGRAM RMTz IMNrNUMBER ONEyTWOzHREE",
     "yFOURzIVEySIXzEVENyEIGHTyNINEyTENzWENTYzHIRTYyFORTYzIFTYySIXTYzEVENTY"]),
    (0x109D2,
    ["aMEROITIC CURSIVE NUMBER ONE HUNDREDyTWO HUNDREDzHREE HUNDREDyFOUR HUNDREDzIVE HUNDREDySIX",
     " HUNDREDzEVEN HUNDREDyEIGHT HUNDREDyNINE HUNDREDyONE THOUSANDyTWO THOUSANDzHREE THOUSANDyF",
     "OUR THOUSANDzIVE THOUSANDySIX THOUSANDzEVEN THOUSANDyEIGHT THOUSANDyNINE THOUSANDyTEN THOU",
     "SANDzWENTY THOUSANDzHIRTY THOUSANDyFORTY THOUSANDzIFTY THOUSANDySIXTY THOUSANDzEVENTY THOU",
     "SANDyEIGHTY THOUSANDyNINETY THOUSANDyONE HUNDRED THOUSANDyTWO HUNDRED THOUSANDzHREE HUNDRE",
     "D THOUSANDyFOUR HUNDRED THOUSANDzIVE HUNDRED THOUSANDySIX HUNDRED THOUSANDzEVEN HUNDRED TH",
     "OUSANDyEIGHT HUNDRED THOUSANDyNINE HUNDRED THOUSANDrFRACTION ONE TWELFTHz TWO TWELFTHSz TH",
     "REE TWELFTHSz FOUR TWELFTHSz FIVE TWELFTHSz SIX TWELFTHSz SEVEN TWELFTHSz EIGHT TWELFTHSz ",
     "NINE TWELFTHSz TEN TWELFTHSaKHAROSHTHI LETTER AlVOWEL SIGN IwUwVOCALIC R"]),
    (0x10A05,
    ["aKHAROSHTHI VOWEL SIGN EwO"]),
    (0x10A0C,
    ["aKHAROSHTHI VOWEL LENGTH MARKlSIGN DOUBLE RING BELOWqANUSVARAqVISARGAlLETTER KAtHAsGAtHA"]),
    (0x10A15,
    ["aKHAROSHTHI LETTER CAtHAsJA"]),
    (0x10A19,
    ["aKHAROSHTHI LETTER NYAsTTAuHAsDDAuHAsNNAsTAtHAsDAtHAsNAsPAtHAsBAtHAsMAsYAsRAsLAsVAsSHAtSAt",
     "AsZAsHAsKKAsTTTHAvAsVHA"]),
    (0x10A38,
    ["aKHAROSHTHI SIGN BAR ABOVEqCAUDAqDOT BELOW"]),
    (0x10A3F,
    ["aKHAROSHTHI VIRAMAlDIGIT ONErTWOsHREErFOURlNUMBER TENtWENTYsONE HUNDREDwTHOUSANDlFRACTION ",
     "ONE HALF"]),
    (0x10A50,
    ["aKHAROSHTHI PUNCTUATION DOTxSMALL CIRCLExCIRCLEyRESCENT BARxMANGALAMxLOTUSxDANDAyOUBLE DAN",
     "DAxLINES"]),
    (0x10A60,
    ["aOLD SOUTH ARABIAN LETTER HEzLAMEDHzHETHzMEMzQOPHzWAWzSHINzRESHzBETHzTAWzSATzKAPHzNUNzKHET",
     "HzSADHEzSAMEKHzFEzALEFzAYNzDHADHEzGIMELzDALETHzGHAYNzTETHzZAYNzDHALETHzYODHzTHAWzTHETHsNUM",
     "BER ONEzFIFTYvERIC INDICATOReNORTH ARABIAN LETTER HEHzLAMzHAHzMEEMzQAFzWAWzES-2zREHzBEHzTE",
     "HzES-1zKAFzNOONzKHAHzSADzES-3zFEHzALEFzAINzDADzGEEMzDALzGHAINzTAHzZAINzTHALzYEHzTHEHzZAHsN",
     "UMBER ONEzTENzTWENTY"]),
    (0x10AC0,
    ["aMANICHAEAN LETTER ALEPHsBETHtHETHsGIMELtHIMELsDALETHsHEsWAWlSIGN UDlLETTER ZAYINtHAYINsJA",
     "YINtHAYINsHETHsTETHsYODHsKAPHsXAPHsKHAPHsLAMEDHsDHAMEDHsTHAMEDHsMEMsNUNsSAMEKHsAYINtAYINsP",
     "EsFEsSADHEsQOPHsXOPHsQHOPHsRESHsSHINtSHINsTAWlABBREVIATION MARK ABOVEzARK BELOW"]),
    (0x10AEB,
    ["aMANICHAEAN NUMBER ONEsFIVEsTENtWENTYsONE HUNDREDlPUNCTUATION STARxFLEURONxDOUBLE DOT WITH",
     "IN DOTzT WITHIN DOTzTxTWO DOTSxLINE FILLER"]),
    (0x10B00,
    ["aAVESTAN LETTER AqAqOqAOqNqANqErEpEqEpOqOpIqIpUqUpKEpXEqYEqVEpGEqGEqHEpCEpJEpTEqHEpDEqHEpT",
     "TEpPEpFEpBEqHEpNGErYErVEqEqYEqNEpMEpHMEpYYEqEpVEpREpLEpSEpZEpSHEpZHEpSHYEqSHEpHE"]),
    (0x10B39,
    ["aAVESTAN ABBREVIATION MARKaTINY TWO DOTS OVER ONE DOT PUNCTUATIONaSMALL TWO DOTS OVER ONE ",
     "DOT PUNCTUATIONaLARGE TWO DOTS OVER ONE DOT PUNCTUATIONgONE DOT OVER TWO DOTS PUNCTUATIONg",
     "TWO RINGS OVER ONE RING PUNCTUATIONgONE RING OVER TWO RINGS PUNCTUATIONaINSCRIPTIONAL PART",
     "HIAN LETTER ALEPHzTTER BETHzTTER GIMELzTTER DALETHzTTER HEzTTER WAWzTTER ZAYINzTTER HETHzT",
     "TER TETHzTTER YODHzTTER KAPHzTTER LAMEDHzTTER MEMzTTER NUNzTTER SAMEKHzTTER AYINzTTER PEzT",
     "TER SADHEzTTER QOPHzTTER RESHzTTER SHINzTTER TAW"]),
    (0x10B58,
    ["aINSCRIPTIONAL PARTHIAN NUMBER ONEzMBER TWOzMBER THREEzMBER FOURzMBER TENzMBER TWENTYzMBER",
     " ONE HUNDREDzMBER ONE THOUSANDqHLAVI LETTER ALEPHzTER BETHzTER GIMELzTER DALETHzTER HEzTER",
     " WAW-AYIN-RESHzTER ZAYINzTER HETHzTER TETHzTER YODHzTER KAPHzTER LAMEDHzTER MEM-QOPHzTER N",
     "UNzTER SAMEKHzTER PEzTER SADHEzTER SHINzTER TAW"]),
    (0x10B78,
    ["aINSCRIPTIONAL PAHLAVI NUMBER ONEzBER TWOzBER THREEzBER FOURzBER TENzBER TWENTYzBER ONE HU",
     "NDREDzBER ONE THOUSANDaPSALTER PAHLAVI LETTER ALEPHxBETHxGIMELxDALETHxHExWAW-AYIN-RESHxZAY",
     "INxHETHxYODHxKAPHxLAMEDHxMEM-QOPHxNUNxSAMEKHxPExSADHEyHINxTAW"]),
    (0x10B99,
    ["aPSALTER PAHLAVI SECTION MARKqTURNED SECTION MARKqFOUR DOTS WITH CROSSz WITH DOT"]),
    (0x10BA9,
    ["aPSALTER PAHLAVI NUMBER ONExTWOyHREExFOURxTENyWENTYxONE HUNDRED"]),
    (0x10C00,
    ["aOLD TURKIC LETTER ORKHON AsYENISEI Az AEsORKHON IsYENISEI Iz EsORKHON OzOEsYENISEI OEsORK",
     "HON ABsYENISEI ABsORKHON AEBsYENISEI AEBsORKHON AGsYENISEI AGsORKHON AEGsYENISEI AEGsORKHO",
     "N ADsYENISEI ADsORKHON AEDzEZsYENISEI EZsORKHON AYsYENISEI AYsORKHON AEYsYENISEI AEYsORKHO",
     "N AEKsYENISEI AEKsORKHON OEKsYENISEI OEKsORKHON ALsYENISEI ALsORKHON AELzELTzEMzANzAENsYEN",
     "ISEI AENsORKHON ENTsYENISEI ENTsORKHON ENCsYENISEI ENCsORKHON ENYsYENISEI ENYz ANGsORKHON ",
     "ENGsYENISEI AENGsORKHON EPzOPzICzECsYENISEI ECsORKHON AQsYENISEI AQsORKHON IQsYENISEI IQsO",
     "RKHON OQsYENISEI OQsORKHON ARsYENISEI ARsORKHON AERzASzAESzASH"]),
    (0x10C40,
    ["aOLD TURKIC LETTER YENISEI ASHsORKHON ESHsYENISEI ESHsORKHON ATsYENISEI ATsORKHON AETsYENI",
     "SEI AETsORKHON OTzBASH"]),
    (0x10C80,
    ["aOLD HUNGARIAN CAPITAL LETTER AzTER AAzTER EBzTER AMBzTER ECzTER ENCzTER ECSzTER EDzTER AN",
     "DzTER EzTER CLOSE EzTER EEzTER EFzTER EGzTER EGYzTER EHzTER IzTER IIzTER EJzTER EKzTER AKz",
     "TER UNKzTER ELzTER ELYzTER EMzTER ENzTER ENYzTER OzTER OOzTER NIKOLSBURG OEzTER RUDIMENTA ",
     "OEzTER OEEzTER EPzTER EMPzTER ERzTER SHORT ERzTER ESzTER ESZzTER ETzTER ENTzTER ETYzTER EC",
     "HzTER UzTER UUzTER NIKOLSBURG UEzTER RUDIMENTA UEzTER EVzTER EZzTER EZSzTER ENT-SHAPED SIG",
     "NzTER US"]),
    (0x10CC0,
    ["aOLD HUNGARIAN SMALL LETTER AzR AAzR EBzR AMBzR ECzR ENCzR ECSzR EDzR ANDzR EzR CLOSE EzR ",
     "EEzR EFzR EGzR EGYzR EHzR IzR IIzR EJzR EKzR AKzR UNKzR ELzR ELYzR EMzR ENzR ENYzR OzR OOz",
     "R NIKOLSBURG OEzR RUDIMENTA OEzR OEEzR EPzR EMPzR ERzR SHORT ERzR ESzR ESZzR ETzR ENTzR ET",
     "YzR ECHzR UzR UUzR NIKOLSBURG UEzR RUDIMENTA UEzR EVzR EZzR EZSzR ENT-SHAPED SIGNzR US"]),
    (0x10CFA,
    ["aOLD HUNGARIAN NUMBER ONEvFIVEvTENvFIFTYvONE HUNDREDzTHOUSANDaHANIFI ROHINGYA LETTER AxBAx",
     "PAxTAyTAxJAxCAxHAxKHAxFAxDAyDAxRAyRAxZAxSAyHAxKAxGAxLAxMAxNAxWAxKINNA WAxYAxKINNA YAxNGAyY",
     "AxVAqVOWEL AwIwUwEwOqMARK SAKINvNA KHONNAqSIGN HARBAHAYvTAHALAxNAxSSI"]),
    (0x10D30,
    ["aHANIFI ROHINGYA DIGIT ZEROwONEwTWOxHREEwFOURxIVEwSIXxEVENwEIGHTwNINE"]),
    (0x10E60,
    ["aRUMI DIGIT ONElTWOmHREElFOURmIVElSIXmEVENlEIGHTlNINEfNUMBER TENnWENTYnHIRTYmFORTYnIFTYmSI",
     "XTYnEVENTYmEIGHTYmNINETYmONE HUNDREDmTWO HUNDREDnHREE HUNDREDmFOUR HUNDREDnIVE HUNDREDmSIX",
     " HUNDREDnEVEN HUNDREDmEIGHT HUNDREDmNINE HUNDREDfFRACTION ONE HALFsQUARTERsTHIRDoTWO THIRD",
     "S"]),
    (0x10E80,
    ["aYEZIDI LETTER ELIFoBEoPEpHEoTHEoSEoCIMpHIMqHIMoHHAoXAoDALoZALoRApHAoZAoJAoSINpHINpADoDADo",
     "TAoZEoEYNoXHEYNoFAoVAq ALTERNATE FORMoQAFoKAFpHAFoGAFoLAMoMIMoNUNoUMoWAWoOWoEWoHAYoYOToET"]),
    (0x10EAB,
    ["aYEZIDI COMBINING HAMZA MARKrMADDA MARKhHYPHENATION MARK"]),
    (0x10EB0,
    ["aYEZIDI LETTER LAM WITH DOT ABOVEoYOT WITH CIRCUMFLEX ABOVE"]),
    (0x10F00,
    ["aOLD SOGDIAN LETTER ALEPHtFINAL ALEPHtBETHtFINAL BETHtGIMELtHEtFINAL HEtWAWtZAYINtHETHtYOD",
     "HtKAPHtLAMEDHtMEMtNUNtFINAL NUNzNUN WITH VERTICAL TAILtSAMEKHtAYINuLTERNATE AYINtPEtSADHEt",
     "FINAL SADHEzSADHE WITH VERTICAL TAILtRESH-AYIN-DALETHtSHINtTAWtFINAL TAWzTAW WITH VERTICAL",
     " TAILmNUMBER ONEtTWOuHREEtFOURuIVEtTENuWENTYuHIRTYtONE HUNDREDmFRACTION ONE HALFmLIGATURE ",
     "AYIN-DALETH"]),
    (0x10F30,
    ["aSOGDIAN LETTER ALEPHpBETHpGIMELpHEpWAWpZAYINpHETHpYODHpKAPHpLAMEDHpMEMpNUNpSAMEKHpAYINpPE",
     "pSADHEpRESH-AYINpSHINpTAWpFETHpLESHiINDEPENDENT SHINiCOMBINING DOT BELOWsTWO DOTS BELOWsDO",
     "T ABOVEsTWO DOTS ABOVEsCURVE ABOVEyBELOWsHOOK ABOVExBELOWsLONG HOOK BELOWsRESH BELOWsSTROK",
     "E BELOWiNUMBER ONEpTENqWENTYpONE HUNDREDiPUNCTUATION TWO VERTICAL BARSzERTICAL BARS WITH D",
     "OTSuCIRCLE WITH DOTuTWO CIRCLES WITH DOTSuHALF CIRCLE WITH DOT"]),
    (0x10F70,
    ["aOLD UYGHUR LETTER ALEPHsBETHsGIMEL-HETHsWAWsZAYINsFINAL HETHsYODHsKAPHsLAMEDHsMEMsNUNsSAM",
     "EKHsPEsSADHEsRESHsSHINsTAWsLESHlCOMBINING DOT ABOVEzBELOWvTWO DOTS ABOVEzDOTS BELOWlPUNCTU",
     "ATION BARxTWO BARSzO DOTSxFOUR DOTS"]),
    (0x10FB0,
    ["aCHORASMIAN LETTER ALEPHsSMALL ALEPHsBETHsGIMELsDALETHsHEsWAWsCURLED WAWsZAYINsHETHsYODHsK",
     "APHsLAMEDHsMEMsNUNsSAMEKHsAYINsPEsRESHsSHINsTAWlNUMBER ONEsTWOtHREEsFOURsTENtWENTYsONE HUN",
     "DRED"]),
    (0x10FE0,
    ["aELYMAIC LETTER ALEPHpBETHpGIMELpDALETHpHEpWAWpZAYINpHETHpTETHpYODHpKAPHpLAMEDHpMEMpNUNpSA",
     "MEKHpAYINpPEpSADHEpQOPHpRESHpSHINpTAWjIGATURE ZAYIN-YODH"]),
    (0x11000,
    ["aBRAHMI SIGN CANDRABINDUmANUSVARAmVISARGAmJIHVAMULIYAmUPADHMANIYAhLETTER ApAoIpIoUpUoVOCAL",
     "IC RxRwLxLoEoAIoOoAUoKApHAoGApHAoNGAoCApHAoJApHAoNYAoTTAqHAoDDAqHAoNNAoTApHAoDApHAoNAoPApH",
     "AoBApHAoMAoYAoRAoLAoVAoSHApSApAoHAoLLAoOLD TAMIL LLLAyRRAyNNNAhVOWEL SIGN AAsBHATTIPROLU A",
     "AsItIsUtUsVOCALIC Rz RR"]),
    (0x11040,
    ["aBRAHMI VOWEL SIGN VOCALIC Lz LLsEsAIsOsAUiIRAMAhDANDAiOUBLE DANDAhPUNCTUATION DOTvUBLE DO",
     "TtLINEtCRESCENT BARtLOTUS"]),
    (0x11052,
    ["aBRAHMI NUMBER ONEoTWOpHREEoFOURpIVEoSIXpEVENoEIGHToNINEoTENpWENTYpHIRTYoFORTYpIFTYoSIXTYp",
     "EVENTYoEIGHTYoNINETYoONE HUNDREDsTHOUSANDhDIGIT ZEROnONEnTWOoHREEnFOURoIVEnSIXoEVENnEIGHTn",
     "NINEhSIGN OLD TAMIL VIRAMAhLETTER OLD TAMIL SHORT EzHORT OhVOWEL SIGN OLD TAMIL SHORT EzIL",
     " SHORT OhLETTER OLD TAMIL LLA"]),
    (0x1107F,
    ["aBRAHMI NUMBER JOINERaKAITHI SIGN CANDRABINDUmANUSVARAmVISARGAhLETTER ApAoIpIoUpUoEoAIoOoA",
     "UoKApHAoGApHAoNGAoCApHAoJApHAoNYAoTTAqHAoDDAqDHAqHAoRHAoNNAoTApHAoDApHAoNAoPApHAoBApHAoMAo",
     "YAoRAoLAoVAoSHApSApAoHAhVOWEL SIGN AAsItIsUtUsEsAIsOsAUhSIGN VIRAMAmNUKTAhABBREVIATION SIG",
     "NhENUMERATION SIGNhNUMBER SIGNhSECTION MARK"]),
    (0x110BF,
    ["aKAITHI DOUBLE SECTION MARKiANDAiOUBLE DANDAhVOWEL SIGN VOCALIC R"]),
    (0x110CD,
    ["aKAITHI NUMBER SIGN ABOVE"]),
    (0x110D0,
    ["aSORA SOMPENG LETTER SAHuTAHuBAHuCAHuDAHuGAHuMAHuNGAHuLAHuNAHuVAHuPAHuYAHuRAHuHAHuKAHuJAHu",
     "NYAHuAHuEEHuIHuUHuOHuEHuMAE"]),
    (0x110F0,
    ["aSORA SOMPENG DIGIT ZEROtONEtTWOuHREEtFOURuIVEtSIXuEVENtEIGHTtNINE"]),
    (0x11100,
    ["aCHAKMA SIGN CANDRABINDUmANUSVARAmVISARGAhLETTER AAoIoUoEoKAApHAAoGAApHAAoNGAAoCAApHAAoJAA",
     "pHAAoNYAAoTTAAqHAAoDDAAqHAAoNNAAoTAApHAAoDAApHAAoNAAoPAApHAAoBAApHAAoMAAoYYAApAAoRAAoLAAoW",
     "AAoSAAoHAAhVOWEL SIGN AsItIsUtUsEsAIsOsAUsOIhO MARKhAU MARKhVIRAMAhMAAYYAA"]),
    (0x11136,
    ["aCHAKMA DIGIT ZEROnONEnTWOoHREEnFOURoIVEnSIXoEVENnEIGHTnNINEhSECTION MARKhDANDAiOUBLE DAND",
     "AhQUESTION MARKhLETTER LHAAhVOWEL SIGN AAsEIhLETTER VAA"]),
    (0x11150,
    ["aMAHAJANI LETTER AqIqUqEqOqKArHAqGArHAqCArHAqJArHAqNYAqTTAsHAqDDAsHAqNNAqTArHAqDArHAqNAqPA",
     "rHAqBArHAqMAqRAqLAqVAqSAqHAqRRAjSIGN NUKTAjABBREVIATION SIGNjSECTION MARKjLIGATURE SHRI"]),
    (0x11180,
    ["aSHARADA SIGN CANDRABINDUnANUSVARAnVISARGAiLETTER AqApIqIpUqUpVOCALIC RyRxLyLpEpAIpOpAUpKA",
     "qHApGAqHApNGApCAqHApJAqHApNYApTTArHApDDArHApNNApTAqHApDAqHApNApPAqHApBAqHApMApYApRApLAqLAp",
     "VApSHAqSAqApHAiVOWEL SIGN AAtIuItUuUtVOCALIC RzC RRzC LzC LLtEtAItOtAU"]),
    (0x111C0,
    ["aSHARADA SIGN VIRAMAnAVAGRAHAnJIHVAMULIYAnUPADHMANIYAiOMiDANDAjOUBLE DANDAiABBREVIATION SI",
     "GNiSEPARATORjANDHI MARKjIGN NUKTAiVOWEL MODIFIER MARKiEXTRA SHORT VOWEL MARKiSUTRA MARKiVO",
     "WEL SIGN PRISHTHAMATRA EiSIGN INVERTED CANDRABINDUiDIGIT ZEROoONEoTWOpHREEoFOURpIVEoSIXpEV",
     "ENoEIGHToNINEiEKAMiSIGN SIDDHAMiHEADSTROKEiCONTINUATION SIGNiSECTION MARK-1v2"]),
    (0x111E1,
    ["aSINHALA ARCHAIC DIGIT ONEwTWOxHREEwFOURxIVEwSIXxEVENwEIGHTwNINEqNUMBER TENyWENTYyHIRTYxFO",
     "RTYyIFTYxSIXTYyEVENTYxEIGHTYxNINETYxONE HUNDREDzE THOUSAND"]),
    (0x11200,
    ["aKHOJKI LETTER ApAoIoUoEoAIoOoAUoKApHAoGApGApHAoNGAoCApHAoJApJA"]),
    (0x11213,
    ["aKHOJKI LETTER NYAoTTAqHAoDDAqHAoNNAoTApHAoDApDDApHAoNAoPApHAoBApBApHAoMAoYAoRAoLAoVAoSAoH",
     "AoLLAhVOWEL SIGN AAsItIsUsEsAIsOsAUhSIGN ANUSVARAmVIRAMAmNUKTAmSHADDAhDANDAiOUBLE DANDAhWO",
     "RD SEPARATORhSECTION MARKhDOUBLE SECTION MARKhABBREVIATION SIGNhSIGN SUKUN"]),
    (0x11280,
    ["aMULTANI LETTER ApIpUpEpKAqHApGA"]),
    (0x11288,
    ["aMULTANI LETTER GHA"]),
    (0x1128A,
    ["aMULTANI LETTER CAqHApJAqJA"]),
    (0x1128F,
    ["aMULTANI LETTER NYApTTArHApDDArDArHApNNApTAqHApDAqHApNApPAqHApBA"]),
    (0x1129F,
    ["aMULTANI LETTER BHApMApYApRApLApVApSApHApRRAqHAiSECTION MARK"]),
    (0x112B0,
    ["aKHUDAWADI LETTER AsArIsIrUsUrErAIrOrAUrKAsHArGAsGAsHArNGArCAsHArJAsJAsHArNYArTTAtHArDDAtD",
     "ArRRArDDHArNNArTAsHArDAsHArNArPAsHArBAsBAsHArMArYArRArLArVArSHAsArHAkSIGN ANUSVARAkVOWEL S",
     "IGN AAvIwIvUwUvEvAIvOvAUkSIGN NUKTApVIRAMA"]),
    (0x112F0,
    ["aKHUDAWADI DIGIT ZEROqONEqTWOrHREEqFOURrIVEqSIXrEVENqEIGHTqNINE"]),
    (0x11300,
    ["aGRANTHA SIGN COMBINING ANUSVARA ABOVEoANDRABINDUnANUSVARAnVISARGA"]),
    (0x11305,
    ["aGRANTHA LETTER AqApIqIpUqUpVOCALIC RxL"]),
    (0x1130F,
    ["aGRANTHA LETTER EEpAI"]),
    (0x11313,
    ["aGRANTHA LETTER OOpAUpKAqHApGAqHApNGApCAqHApJAqHApNYApTTArHApDDArHApNNApTAqHApDAqHApNA"]),
    (0x1132A,
    ["aGRANTHA LETTER PAqHApBAqHApMApYApRA"]),
    (0x11332,
    ["aGRANTHA LETTER LAqLA"]),
    (0x11335,
    ["aGRANTHA LETTER VApSHAqSAqApHA"]),
    (0x1133B,
    ["aCOMBINING BINDU BELOWaGRANTHA SIGN NUKTAnAVAGRAHAiVOWEL SIGN AAtIuItUuUtVOCALIC RzC RR"]),
    (0x11347,
    ["aGRANTHA VOWEL SIGN EEtAI"]),
    (0x1134B,
    ["aGRANTHA VOWEL SIGN OOtAUiSIGN VIRAMA"]),
    (0x11350,
    ["aGRANTHA OM"]),
    (0x11357,
    ["aGRANTHA AU LENGTH MARK"]),
    (0x1135D,
    ["aGRANTHA SIGN PLUTAiLETTER VEDIC ANUSVARAvDOUBLE ANUSVARAqOCALIC RRxLLiVOWEL SIGN VOCALIC ",
     "LzC LL"]),
    (0x11366,
    ["aCOMBINING GRANTHA DIGIT ZEROyONEyTWOzHREEyFOURzIVEySIX"]),
    (0x11370,
    ["aCOMBINING GRANTHA LETTER AzKAzNAzVIzPA"]),
    (0x11400,
    ["aNEWA LETTER AnAmInImUnUmVOCALIC RvRuLvLmEmAImOmAUmKAnHAmGAnHAmNGAoHAmCAnHAmJAnHAmNYAoHAmT",
     "TAoHAmDDAoHAmNNAmTAnHAmDAnHAmNAnHAmPAnHAmBAnHAmMAnHAmYAmRAnHAmLAnHAmWAmSHAnSAnAmHAfVOWEL S",
     "IGN AAqIrIqUrUqVOCALIC RzRyLzLqEqAI"]),
    (0x11440,
    ["aNEWA VOWEL SIGN OqAUfSIGN VIRAMAkCANDRABINDUkANUSVARAkVISARGAkNUKTAkAVAGRAHAkFINAL ANUSVA",
     "RAfOMfSIDDHIfDANDAgOUBLE DANDAfCOMMAfGAP FILLERfABBREVIATION SIGNfDIGIT ZEROlONElTWOmHREEl",
     "FOURmIVElSIXmEVENlEIGHTlNINEgOUBLE COMMAfPLACEHOLDER MARK"]),
    (0x1145D,
    ["aNEWA INSERTION SIGNfSANDHI MARKfLETTER VEDIC ANUSVARAfSIGN JIHVAMULIYAkUPADHMANIYA"]),
    (0x11480,
    ["aTIRHUTA ANJIiLETTER AqApIqIpUqUpVOCALIC RyRxLyLpEpAIpOpAUpKAqHApGAqHApNGApCAqHApJAqHApNYA",
     "pTTArHApDDArHApNNApTAqHApDAqHApNApPAqHApBAqHApMApYApRApLApVApSHAqSAqApHAiVOWEL SIGN AAtIuI",
     "tUuUtVOCALIC RzC RRzC LzC LLtEtSHORT EtAItOtSHORT OtAUiSIGN CANDRABINDU"]),
    (0x114C0,
    ["aTIRHUTA SIGN ANUSVARAnVISARGApRAMAnNUKTAnAVAGRAHAiGVANGiABBREVIATION SIGNiOM"]),
    (0x114D0,
    ["aTIRHUTA DIGIT ZEROoONEoTWOpHREEoFOURpIVEoSIXpEVENoEIGHToNINE"]),
    (0x11580,
    ["aSIDDHAM LETTER AqApIqIpUqUpVOCALIC RyRxLyLpEpAIpOpAUpKAqHApGAqHApNGApCAqHApJAqHApNYApTTAr",
     "HApDDArHApNNApTAqHApDAqHApNApPAqHApBAqHApMApYApRApLApVApSHAqSAqApHAiVOWEL SIGN AAtIuItUuUt",
     "VOCALIC RzC RR"]),
    (0x115B8,
    ["aSIDDHAM VOWEL SIGN EtAItOtAUiSIGN CANDRABINDUnANUSVARAnVISARGApRAMAnNUKTAnSIDDHAMiDANDAjO",
     "UBLE DANDAiSEPARATOR DOTsBARiREPETITION MARK-1y2y3iEND OF TEXT MARKiSECTION MARK WITH TRID",
     "ENT AND U-SHAPED ORNAMENTSz TRIDENT AND DOTTED CRESCENTSz RAYS AND DOTTED CRESCENTSz RAYS ",
     "AND DOTTED DOUBLE CRESCENTSz RAYS AND DOTTED TRIPLE CRESCENTSvDOUBLE RINGzLE RING WITH RAY",
     "SvWITH DOUBLE CRESCENTSz TRIPLE CRESCENTSz QUADRUPLE CRESCENTSz SEPTUPLE CRESCENTSz CIRCLE",
     "S AND RAYSz CIRCLES AND TWO ENCLOSURESz CIRCLES AND FOUR ENCLOSURESiLETTER THREE-CIRCLE AL",
     "TERNATE IqWO-CIRCLE ALTERNATE Iz ALTERNATE IIpALTERNATE UiVOWEL SIGN ALTERNATE UzATE UU"]),
    (0x11600,
    ["aMODI LETTER AnAmInImUnUmVOCALIC RvRuLvLmEmAImOmAUmKAnHAmGAnHAmNGAmCAnHAmJAnHAmNYAmTTAoHAm",
     "DDAoHAmNNAmTAnHAmDAnHAmNAmPAnHAmBAnHAmMAmYAmRAmLAmVAmSHAnSAnAmHAmLLAfVOWEL SIGN AAqIrIqUrU",
     "qVOCALIC RzRyLzLqEqAIqOqAUfSIGN ANUSVARAkVISARGAmRAMA"]),
    (0x11640,
    ["aMODI SIGN ARDHACANDRAfDANDAgOUBLE DANDAfABBREVIATION SIGNfSIGN HUVA"]),
    (0x11650,
    ["aMODI DIGIT ZEROlONElTWOmHREElFOURmIVElSIXmEVENlEIGHTlNINE"]),
    (0x11660,
    ["aMONGOLIAN BIRGA WITH ORNAMENTkROTATED BIRGAkDOUBLE BIRGA WITH ORNAMENTkTRIPLE BIRGA WITH ",
     "ORNAMENTkBIRGA WITH DOUBLE ORNAMENTkROTATED BIRGA WITH ORNAMENTzITH DOUBLE ORNAMENTkINVERT",
     "ED BIRGAy WITH DOUBLE ORNAMENTkSWIRL BIRGAv WITH ORNAMENTzH DOUBLE ORNAMENTkTURNED SWIRL B",
     "IRGA WITH DOUBLE ORNAMENT"]),
    (0x11680,
    ["aTAKRI LETTER AoAnIoInUoUnEnAInOnAUnKAoHAnGAoHAnNGAnCAoHAnJAoHAnNYAnTTApHAnDDApHAnNNAnTAoH",
     "AnDAoHAnNAnPAoHAnBAoHAnMAnYAnRAnLAnVAnSHAoAnHAnRRAgSIGN ANUSVARAlVISARGAgVOWEL SIGN AArIsI",
     "rUsUrErAIrOrAUgSIGN VIRAMAlNUKTAgLETTER ARCHAIC KHAgABBREVIATION SIGN"]),
    (0x116C0,
    ["aTAKRI DIGIT ZEROmONEmTWOnHREEmFOURnIVEmSIXnEVENmEIGHTmNINE"]),
    (0x11700,
    ["aAHOM LETTER KAnHAmNGAnAmTAmALTERNATE TAmPAnHAmBAmMAmJAmCHAmTHAmRAmLAmSAmNYAmHAmAmDAnHAmGA",
     "mALTERNATE GAmGHAmBHAmJHAmALTERNATE BA"]),
    (0x1171D,
    ["aAHOM CONSONANT SIGN MEDIAL LAzL RAzL LIGATING RAfVOWEL SIGN ArAqIrIqUrUqEqAWqOqAIrMfSIGN ",
     "KILLER"]),
    (0x11730,
    ["aAHOM DIGIT ZEROlONElTWOmHREElFOURmIVElSIXmEVENlEIGHTlNINEfNUMBER TENnWENTYfSIGN SMALL SEC",
     "TIONlECTIONkRULAIgYMBOL VIfLETTER CAmTTAoHAmDDAoHAmNNAmLLA"]),
    (0x11800,
    ["aDOGRA LETTER AoAnIoInUoUnEnAInOnAUnKAoHAnGAoHAnNGAnCAoHAnJAoHAnNYAnTTApHAnDDApHAnNNAnTAoH",
     "AnDAoHAnNAnPAoHAnBAoHAnMAnYAnRAnLAnVAnSHAoSAoAnHAnRRAgVOWEL SIGN AArIsIrUsUrVOCALIC RzRRrE",
     "rAIrOrAUgSIGN ANUSVARAlVISARGAnRAMAlNUKTAgABBREVIATION SIGN"]),
    (0x118A0,
    ["aWARANG CITI CAPITAL LETTER NGAAzR AzR WIzR YUzR YAzR YOzR IIzR UUzR EzR OzR ANGzR GAzR KO",
     "zR ENYzR YUJzR UCzR ENNzR ODDzR TTEzR NUNGzR DAzR ATzR AMzR BUzR PUzR HIYOzR HOLOzR HORRzR",
     " HARzR SSUUzR SIIzR VIYOmSMALL LETTER NGAAzAzWIzYUzYAzYOzIIzUUzEzOzANGzGAzKOzENYzYUJzUCzEN",
     "NzODDzTTEzNUNGzDAzATzAMzBUzPUzHIYOzHOLOzHORRzHARzSSUUzSIIzVIYO"]),
    (0x118E0,
    ["aWARANG CITI DIGIT ZEROsONEsTWOtHREEsFOURtIVEsSIXtEVENsEIGHTsNINEmNUMBER TENuWENTYuHIRTYtF",
     "ORTYuIFTYtSIXTYuEVENTYtEIGHTYtNINETY"]),
    (0x118FF,
    ["aWARANG CITI OMaDIVES AKURU LETTER AuAtIuItUuUtE"]),
    (0x11909,
    ["aDIVES AKURU LETTER O"]),
    (0x1190C,
    ["aDIVES AKURU LETTER KAuHAtGAuHAtNGAtCAuHAtJA"]),
    (0x11915,
    ["aDIVES AKURU LETTER NYAtTTA"]),
    (0x11918,
    ["aDIVES AKURU LETTER DDAvHAtNNAtTAuHAtDAuHAtNAtPAuHAtBAuHAtMAtYAuYAtRAtLAtVAtSHAuSAuAtHAtLL",
     "AtZAmVOWEL SIGN AAxIyIxUyUxE"]),
    (0x11937,
    ["aDIVES AKURU VOWEL SIGN AIxO"]),
    (0x1193B,
    ["aDIVES AKURU SIGN ANUSVARArCANDRABINDUrHALANTAmVIRAMAmPREFIXED NASAL SIGNmMEDIAL YAmINITIA",
     "L RAmMEDIAL RAmSIGN NUKTAmDOUBLE DANDAmGAP FILLERmEND OF TEXT MARK"]),
    (0x11950,
    ["aDIVES AKURU DIGIT ZEROsONEsTWOtHREEsFOURtIVEsSIXtEVENsEIGHTsNINE"]),
    (0x119A0,
    ["aNANDINAGARI LETTER AuAtIuItUuUtVOCALIC RzC RR"]),
    (0x119AA,
    ["aNANDINAGARI LETTER EtAItOtAUtKAuHAtGAuHAtNGAtCAuHAtJAuHAtNYAtTTAvHAtDDAvHAtNNAtTAuHAtDAuH",
     "AtNAtPAuHAtBAuHAtMAtYAtRAtLAtVAtSHAuSAuAtHAtLLAtRRAmVOWEL SIGN AAxIyIxUyUxVOCALIC RzCALIC ",
     "RR"]),
    (0x119DA,
    ["aNANDINAGARI VOWEL SIGN ExAIxOxAUmSIGN ANUSVARArVISARGAtRAMArAVAGRAHArSIDDHAMmHEADSTROKEmV",
     "OWEL SIGN PRISHTHAMATRA E"]),
    (0x11A00,
    ["aZANABAZAR SQUARE LETTER ArVOWEL SIGN IzGN UEzGN UzGN EzGN OEzGN OzGN AIzGN AUzGN REVERSED",
     " IxLENGTH MARKrLETTER KAzHAyGAzHAyNGAyCAzHAyJAyNYAyTTAzTHAyDDAzDHAyNNAyTAzHAyDAzHAyNAyPAzH",
     "AyBAzHAyMAyTSAzSHAyDZAzZHAyZHAzAy-AyYAyRAyLAyVAySHAzSAzAyHAyKSSArFINAL CONSONANT MARKrSIGN",
     " VIRAMAwCANDRABINDUzDRABINDU WITH ORNAMENTzDRA WITH ORNAMENTwANUSVARAwVISARGArCLUSTER-INIT",
     "IAL LETTER RAzFINAL LETTER YAzFINAL LETTER RAzFINAL LETTER LAzFINAL LETTER VArINITIAL HEAD",
     " MARK"]),
    (0x11A40,
    ["aZANABAZAR SQUARE CLOSING HEAD MARKrMARK TSHEGwSHADwDOUBLE SHADwLONG TSHEGrINITIAL DOUBLE-",
     "LINED HEAD MARKrCLOSING DOUBLE-LINED HEAD MARKrSUBJOINER"]),
    (0x11A50,
    ["aSOYOMBO LETTER AiVOWEL SIGN ItUEutEtOuEtAIuUtVOCALIC RzC LoLENGTH MARKiLETTER KAqHApGAqHA",
     "pNGApCAqHApJAqHApNYApTTArHApDDArHApNNApTAqHApDAqHApNApPAqHApBAqHApMApTSArHApDZApZHAqAp-ApY",
     "ApRApLApVApSHAqSAqApHApKSSAiSIGN JIHVAMULIYAnUPADHMANIYAiCLUSTER-INITIAL LETTER RAzETTER L",
     "AzETTER SHAzETTER SAiFINAL CONSONANT SIGN GzIGN KzIGN NGzIGN DzIGN NzIGN B"]),
    (0x11A90,
    ["aSOYOMBO FINAL CONSONANT SIGN MzIGN RzIGN LzIGN SHzIGN SzIGN -AiSIGN ANUSVARAnVISARGAiGEMI",
     "NATION MARKiSUBJOINERiMARK TSHEGnSHADnDOUBLE SHADnPLUTAiHEAD MARK WITH MOON AND SUN AND TR",
     "IPLE FLAMEzON AND SUN AND FLAMEzON AND SUNiTERMINAL MARK-1w2"]),
    (0x11AB0,
    ["aCANADIAN SYLLABICS NATTILIK HIzIK HIIzIK HOzIK HOOzIK HAzIK HAAzIK SHRIzIK SHRIIzIK SHROz",
     "IK SHROOzIK SHRAzIK SHRAAtSPEvIvOvAaPAU CIN HAU LETTER PAtKAtLAtMAtDAtZAtVAtNGAtHAtGAtKHAt",
     "SAtBAtCAtTAuHAtNAtPHAtRAtFAtCHAtAtEtItOtUuAtIAtFINAL PzKzTzMzNzLzWzNGzYmRISING TONE LONGxm",
     "SANDHI GLOTTAL STOPmRISING TONE LONG FINALyFINALmSANDHI GLOTTAL STOP FINALtTONE LONGxx LON",
     "G FINALyFINALmMID-LEVEL TONE"]),
    (0x11AF0,
    ["aPAU CIN HAU GLOTTAL STOP VARIANTmMID-LEVEL TONE LONG FINALzE FINALmLOW-FALLING TONE LONGz",
     "ONEmGLOTTAL STOPmLOW-FALLING TONE LONG FINALzONE FINALmGLOTTAL STOP FINAL"]),
    (0x11C00,
    ["aBHAIKSUKI LETTER AsArIsIrUsUrVOCALIC RzRRzL"]),
    (0x11C0A,
    ["aBHAIKSUKI LETTER ErAIrOrAUrKAsHArGAsHArNGArCAsHArJAsHArNYArTTAtHArDDAtHArNNArTAsHArDAsHAr",
     "NArPAsHArBAsHArMArYArRArLArVArSHAsSAsArHAkVOWEL SIGN AAvIwIvUwUvVOCALIC RzLIC RRzLIC L"]),
    (0x11C38,
    ["aBHAIKSUKI VOWEL SIGN EvAIvOvAUkSIGN CANDRABINDUpANUSVARApVISARGArRAMApAVAGRAHAkDANDAlOUBL",
     "E DANDAkWORD SEPARATORkGAP FILLER-1v2"]),
    (0x11C50,
    ["aBHAIKSUKI DIGIT ZEROqONEqTWOrHREEqFOURrIVEqSIXrEVENqEIGHTqNINEkNUMBER ONErTWOsHREErFOURsI",
     "VErSIXsEVENrEIGHTrNINErTENsWENTYsHIRTYrFORTYsIFTYrSIXTYsEVENTYrEIGHTYrNINETYkHUNDREDS UNIT",
     " MARK"]),
    (0x11C70,
    ["aMARCHEN HEAD MARKiMARK SHADiLETTER KAqHApGApNGApCAqHApJApNYApTAqHApDApNApPAqHApBApMApTSAr",
     "HApDZApWApZHAqAp-ApYApRApLApSHAqApHApA"]),
    (0x11C92,
    ["aMARCHEN SUBJOINED LETTER KAzKHAzGAzNGAzCAzCHAzJAzNYAzTAzTHAzDAzNAzPAzPHAzBAzMAzTSAzTSHAzD",
     "ZAzWAzZHAzZA"]),
    (0x11CA9,
    ["aMARCHEN SUBJOINED LETTER YAzRAzLAzSHAzSAzHAzAiVOWEL SIGN AAtItUtEtOiSIGN ANUSVARAnCANDRAB",
     "INDU"]),
    (0x11D00,
    ["aMASARAM GONDI LETTER AwAvIwIvUwUvE"]),
    (0x11D08,
    ["aMASARAM GONDI LETTER AIvO"]),
    (0x11D0B,
    ["aMASARAM GONDI LETTER AUvKAwHAvGAwHAvNGAvCAwHAvJAwHAvNYAvTTAxHAvDDAxHAvNNAvTAwHAvDAwHAvNAv",
     "PAwHAvBAwHAvMAvYAvRAvLAvVAvSHAwSAwAvHAvLLAvKSSAvJNYAvTRAoVOWEL SIGN AAzIzIIzUzUUzVOCALIC R"]),
    (0x11D3A,
    ["aMASARAM GONDI VOWEL SIGN E"]),
    (0x11D3C,
    ["aMASARAM GONDI VOWEL SIGN AIzO"]),
    (0x11D3F,
    ["aMASARAM GONDI VOWEL SIGN AUoSIGN ANUSVARAtVISARGAtNUKTAtCANDRAtHALANTAoVIRAMAoREPHApA-KAR",
     "A"]),
    (0x11D50,
    ["aMASARAM GONDI DIGIT ZEROuONEuTWOvHREEuFOURvIVEuSIXvEVENuEIGHTuNINE"]),
    (0x11D60,
    ["aGUNJALA GONDI LETTER AwAvIwIvUwU"]),
    (0x11D67,
    ["aGUNJALA GONDI LETTER EEvAI"]),
    (0x11D6A,
    ["aGUNJALA GONDI LETTER OOvAUvYAvVAvBAwHAvMAvKAwHAvTAwHAvLAvGAwHAvDAwHAvNAvCAwHAvTTAxHAvLLAv",
     "JAwHAvDDAxHAvNGAvPAwHAvHAvRAvSAoVOWEL SIGN AAzIzIIzUzUU"]),
    (0x11D90,
    ["aGUNJALA GONDI VOWEL SIGN EEzAI"]),
    (0x11D93,
    ["aGUNJALA GONDI VOWEL SIGN OOzAUoSIGN ANUSVARAtVISARGAoVIRAMAoOM"]),
    (0x11DA0,
    ["aGUNJALA GONDI DIGIT ZEROuONEuTWOvHREEuFOURvIVEuSIXvEVENuEIGHTuNINE"]),
    (0x11EE0,
    ["aMAKASAR LETTER KApGApNGApPApBApMApTApDApNApCApJApNYApYApRApLApVApSApAiANGKAiVOWEL SIGN It",
     "UtEtOiPASSIMBANGiEND OF SECTION"]),
    (0x11FB0,
    ["aLISU LETTER YHA"]),
    (0x11FC0,
    ["aTAMIL FRACTION ONE THREE-HUNDRED-AND-TWENTIETHtONE-HUNDRED-AND-SIXTIETHtEIGHTIETHtSIXTY-F",
     "OURTHtFORTIETHtTHIRTY-SECONDpTHREE EIGHTIETHSvSIXTY-FOURTHSpONE TWENTIETHtSIXTEENTH-1zNTH-",
     "2tTENTHtEIGHTHpTHREE TWENTIETHSvSIXTEENTHSpONE FIFTHtQUARTERtHALF-1y2pTHREE QUARTERSpDOWNS",
     "CALING FACTOR KIIZHgSIGN NELlCEVITUlAAZHAAKKUlUZHAKKUlMUUVUZHAKKUlKURUNIlPATHAKKUlMUKKURUN",
     "IlKAACUlPANAMmONlVARAAKANlPAARAMlKUZHIlVELIgWET CULTIVATION SIGNgDRY CULTIVATION SIGNgLAND",
     " SIGNgSALT PAN SIGNgTRADITIONAL CREDIT SIGNsNUMBER SIGNgCURRENT SIGNgAND ODD SIGNgSPENT SI",
     "GNgTOTAL SIGNgIN POSSESSION SIGNgSTARTING FROM SIGNhIGN MUTHALIYAlVAKAIYARAA"]),
    (0x11FFF,
    ["aTAMIL PUNCTUATION END OF TEXTaCUNEIFORM SIGN Aq TIMES AxBADxGAN2 TENUxHAxIGIxLAGAR GUNUxM",
     "USHxSAGq2qBr TIMES ASH2yDUN3 GUNUyGALzAN2 TENUyHAyIGI GUNUzMINyLAGABySHESHyU PLUS U PLUS U",
     "sGUNUr2s TIMES BALAGzGAN2 TENUzME PLUS ENzSHA3zTAK4qDqKr TIMES ERIN2ySHITA PLUS GISHqLr TI",
     "MES ALyDIM2yGISHyHAyKAD3zIySHEyUSHrANrEPHqMARt TIMES SHEqNr OVER ANsTHREE TIMESsPLUS NAGA ",
     "OPPOSING AN PLUS NAGAzGA SQUAREDrSHEqPINqRADt TIMES KURrKABqSAL2rHs ZIDA TENUtKABA TENUtOV",
     "ER ASH TUG2 OVER TUG2 TUG2 OVER TUG2 PAPzSH OVER ASHzSH OVER ASH CROSSING ASH OVER ASH OVE",
     "R ASHs2"]),
    (0x1203F,
    ["aCUNEIFORM SIGN ASHGABpBArDrG3rHAR2rLs OVER BALsAGrRsA2qIr TIMES AyGARyIGI GUNUqUr OVER BU",
     " ABz UNsCROSSING BUrLUGu OVER BULUGrRs2pDArGs KISIM5 TIMES A PLUS MASHz TIMES AMARz TIMES ",
     "BALAGz TIMES BIz TIMES GAz TIMES GA PLUS MASHz TIMES GIz TIMES GIR2z TIMES GUDz TIMES HAz ",
     "TIMES IRz TIMES IR PLUS LUz TIMES KAKz TIMES LAz TIMES LUz TIMES LU PLUS MASH2z TIMES LUMz",
     " TIMES NEz TIMES PAP PLUS PAPz TIMES SIz TIMES TAK4z TIMES U2 PLUS GIR2z TIMES USHrMrRsA3t",
     "4qIrBrMs TIMES SHEs2rNs KASKAL U GUNU DISHrSHqUr OVER DUsGUNUsSHESHIGrB"]),
    (0x1207F,
    ["aCUNEIFORM SIGN DUB TIMES ESH2s2rGsUDrHrNs3t GUNUy GUNUs4rR2pEq TIMES PAPrOVER E NUN OVER ",
     "NUNq2r TIMES A PLUS HA PLUS DAyGARyMIySALzHEyUqDINqGIRqLqNr TIMES GAN2zAN2 TENUyMEsCROSSIN",
     "G ENsOPPOSING ENsSQUAREDqRENrIN2qSH2qZENt TIMES Az A PLUS LALz A PLUS LAL TIMES LALz ANz B",
     "ADz DUN3 GUNUz DUN3 GUNU GUNUz HAz HA GUNUz IGI GUNUz KASKALz KASKAL SQUAREDz KU3z LAz LAL",
     " TIMES LALz LIz LUz U2z UDpGAr GUNUr2s TIMES A PLUS DA PLUS HAzA PLUS HAzA PLUS IGIzAB2 TE",
     "NU PLUS TABzANzASHzASH2 PLUS GAL"]),
    (0x120BF,
    ["aCUNEIFORM SIGN GA2 TIMES BADzBAR PLUS RAzBURzBUR PLUS RAzDAzDIzDIM TIMES SHEzDUBzELzEL PL",
     "US LAzENzEN TIMES GAN2 TENUzGAN2 TENUzGARzGIzGI4zGI4 PLUS AzGIR2 PLUS SUzHA PLUS LU PLUS E",
     "SH2zHALzHAL PLUS LAzHI PLUS LIzHUB2zIGI GUNUzISH PLUS HU PLUS ASHzKAKzKASKALzKIDzKID PLUS ",
     "LALzKU3 PLUS ANzLAzME PLUS ENzMIzNUNzNUN OVER NUNzPAzSALzSARzSHEzSHE PLUS TURzSHIDzSUMzTAK",
     "4zUzUDzUD PLUS DUtOVER GA2rBAt CROSSING GABArDs OVER GAD GAR OVER GARrLs GAD OVER GAD GAR ",
     "OVER GARsAMrMrNs2t TENUuOVER GAN2uCROSSING GAN2rRs3rSHANqESHTIN"]),
    (0x120FF,
    ["aCUNEIFORM SIGN GESHTIN TIMES KURqIr TIMES EyUsCROSSING GIr4s OVER GI4tCROSSING GI4rDIMrR2",
     "t GUNUs3t TIMES A PLUS IGIz GAN2 TENUz IGIz LU PLUS IGIz PArSALsHt CROSSING GISHuTIMES BAD",
     "z TAK4vENUqUr CROSSING GUr2s TIMES KAKzKAK TIMES IGI GUNUzNUNzSAL PLUS TUG2tGUNUrDs TIMES ",
     "A PLUS KURzKURtOVER GUD LUGALrLrMs TIMES SHErRs7sUNtSHpHAr TENUsGUNUrLqIr TIMES ASHzSH2yBA",
     "DyDISHyGADyKINyNUNySHEyUqUrB2t TIMES ANz HALz KASKALz LISHz UDrL2"]),
    (0x1213F,
    ["aCUNEIFORM SIGN Iq AqBqDIMt OVER IDIM BURzIDIM SQUAREDqGrIs DIBtRItOVER IGI SHIR OVER SHIR",
     " UD OVER UDtGUNUqLr TIMES GAN2 TENUr2qMr TIMES TAK4sCROSSING IMsOPPOSING IMsSQUAREDrINqNqR",
     "qSHpKAr TIMES AzDzD PLUS KU3zSH2yBADzALAGzARzIyERIN2zSH2yGAzALzAN2 TENUzARzAR PLUS SHA3 PL",
     "US AzIzIR2zISH PLUS SARzISH CROSSING GISHzUzUR7yIGIzMyKAKzIzIDyLIzUyMEzE PLUS DUzE PLUS GI",
     "zE PLUS TEzIzI PLUS NUNUZyNEzUNyPIyRUySA"]),
    (0x1217F,
    ["aCUNEIFORM SIGN KA TIMES SARzHAzHEzHIDzHUzIGzUHURyTARyUz2zDzMUM TIMES PAzSHyZIr2s CROSSING",
     " KA2rBrD2s3s4s5t OVER KAD5rKs TIMES IGI GUNUrLs TIMES BADtCROSSING KALrM2s4rSKALv LAGAB TI",
     "MES U OVER LAGAB TIMES UwOVER KASKAL LAGAB TIMES U OVER LAGAB TIMES UqESH2qIr TIMES BADyUz",
     "DrDrNrSALsHsIM5v OVER KISIM5qUr OVER HI TIMES ASH2 KU OVER HI TIMES ASH2r3r4s VARIANT FORM",
     "r7rLs GUNUrNrRs OPPOSING KURrSHU2qWU318pLArGABu TIMES AzS A PLUS DA PLUS HAzS A PLUS GARzS",
     " A PLUS LALzS ALzS AN"]),
    (0x121BF,
    ["aCUNEIFORM SIGN LAGAB TIMES ASH ZIDA TENUzS BADzS BIzS DARzS ENzS GAzS GARzS GUDzS GUD PLU",
     "S GUDzS HAzS HALzS HI TIMES NUNzS IGI GUNUzS IMzS IM PLUS HAzS IM PLUS LUzS KIzS KINzS KU3",
     "zS KULzS KUL PLUS HI PLUS AzS LAGABzS LISHzS LUzS LULzS MEzS ME PLUS ENzS MUSHzS NEzS SHE ",
     "PLUS SUMzS SHITA PLUS GISH PLUS ERIN2zS SHITA PLUS GISH TENUzS SHU2zS SHU2 PLUS SHU2zS SUM",
     "zS TAGzS TAK4zS TE PLUS A PLUS SU PLUS NAzS UzS U PLUS AzS U PLUS U PLUS UzS U2 PLUS ASHzS",
     " UDzS USHvSQUAREDtRu TIMES SHEzS SHE PLUS SUMvGUNUz OVER LAGAR GUNU SHErHSHUrLs TIMES LALr",
     "Ms TIMES KURzKUR PLUS RUqIrLrMMU2rSHqUr TIMES BADr2s TIMES AL"]),
    (0x121FF,
    ["aCUNEIFORM SIGN LU2 TIMES BADzESH2zESH2 TENUzGAN2 TENUzHI TIMES BADzIMzKAD2zKAD3zKAD3 PLUS",
     " ASHzKIzLA PLUS ASHzLAGABzME PLUS ENzNEzNUzSI PLUS ASHzSIK2 PLUS BUzTUG2uENUtCROSSING LU2t",
     "OPPOSING LU2tSQUAREDuHESHIGr3rGALu OVER LUGALwPPOSING LUGALvSHESHIGrHrLrMs OVER LUMzUM GAR",
     " OVER GARpMAr TIMES TAK4sGUNUr2rHrRrSHt2qErSqIrNqUr OVER MUrGs GUNUrNSUBrRGU2rSHt TIMES Az",
     " KURz ZAuOVER MUSHzMUSH TIMES A PLUS NAuCROSSING MUSHt3u TIMES AzS A PLUS DIzS DIvGUNUpNA"]),
    (0x1223F,
    ["aCUNEIFORM SIGN NA2rGAt INVERTEDuTIMES SHU TENUuOPPOSING NAGAtRrM NUTILLUss2qEr TIMES AyUD",
     "sSHESHIGqIr TIMES Er2rMs TIMES GAN2 TENUzGAR PLUS GAN2 TENUrNDA2v TIMES ANzES ASHzES ASH P",
     "LUS ASHzES GUDzES ME PLUS GAN2 TENUzES NEzES NUNzES SHEzES SHE PLUS A ANzES SHE PLUS ASHzE",
     "S SHE PLUS ASH PLUS ASHzES U2 PLUS ASHzES USHrSAGqUr11rNs LAGAR TIMES GARzTIMES MASHzTIMES",
     " SALzTIMES SAL OVER NUN LAGAR TIMES SALzTIMES USHtTENUtOVER NUNtCROSSING NUNzNG NUN LAGAR ",
     "OVER LAGARsUZu AB2 TIMES ASHGABzTIMES BIzTIMES DUGzTIMES GUDzTIMES IGI GUNUzTIMES KAD3zTIM",
     "ES LAzTIMES NEzTIMES SILA3zTIMES U2vKISIM5 TIMES BIzM5 TIMES BI UpPArDrNrPqESH2"]),
    (0x1227F,
    ["aCUNEIFORM SIGN PIr TIMES AzByBIzUyEyIzByUz2sCROSSING PIrRIGu TIMES KALzS UDzS ZAvOPPOSING",
     " PIRIGpRArBqIqUpSArG NUTILLUss TIMES AzDUzDUBzHAzKAKzKURzLUMzMIzNUNzSALzSHIDzTABzU2zUBzUMz",
     "URzUSHtOVER SAGtGUNUrLs LAGAB TIMES ASH2rNGA2rRqHAs3t TIMES Az BADz GISHz NEz SHU2z TURz U",
     "z U PLUS As6sB6sR2rEs HUtOVER SHE GAD OVER GAD GAR OVER GARzHE TAB OVER TAB GAR OVER GARsG",
     "9"]),
    (0x122BF,
    ["aCUNEIFORM SIGN SHENsSHu2uLAMrIDt TIMES Az IMsMt TIMES Az BALz BULUGz DINz GARz IGIz IGI G",
     "UNUz KUSHU2z LULz MUGz SALsNIGsRt TENUuOVER SHIR BUR OVER BURsTArUs OVER INVERTED SHUs2sBU",
     "RqIr GUNUrGs4t OVER SIG4 SHU2rK2rLA3qUr OVER SUrDs2rHURrMsASHrRs9pTAr ASTERISKsTIMES HIyMI",
     "sGUNUrBs OVER TAB NI OVER NI DISH OVER DISHtSQUAREDrGs TIMES BIzGUDzSHEzSHUzTUG2zUDrK4rRqE",
     "r GUNUqI"]),
    (0x122FF,
    ["aCUNEIFORM SIGN TI TENUrLrRs TIMES TAK4tOVER TIRzIR GAD OVER GAD GAR OVER GARqUrG2rKrMrRs ",
     "OVER TUR ZA OVER ZApUq GUDrU UrOVER U PA OVER PA GAR OVER GARySUR OVER SURyU REVERSED OVER",
     " U REVERSEDq2qBqDr KUSHU2sTIMES BADyMIyU PLUS U PLUS Uz PLUS U PLUS U GUNUsGUNUsSHESHIGz T",
     "IMES BADrUGqMr TIMES LAGAByME PLUS DAySHA3yUrBINrUMt TIMES KASKALz PAqNr GUNUqRr CROSSING ",
     "URsSHESHIGr2s TIMES A PLUS HAzA PLUS NAzALzHAzNUNzU2zU2 PLUS ASHzU2 PLUS BIr4rIs3rUs TIMES",
     " AzASHGABzBARzDUNzGAzGALzGAN2 TENU"]),
    (0x1233F,
    ["aCUNEIFORM SIGN URU TIMES GARzGUzHAzIGIzIMzISHzKIzLUMzMINzPAzSHEzSIG4zTUzU PLUS GUDzUDzURU",
     "DAsDAu TIMES UqSHs TIMES AzKUzKURzTAK4sXs2sUMXqTUKIqZ3s TIMES KASKALrUpZAr TENUsSQUARED TI",
     "MES KURrGrMXqE2qIr OVER ZIr3rBs KABA TENUrGrZ2qUr5s TIMES ArBURrMpKAP ELAMITEpAB TIMES NUN",
     "r2 TIMES AqMAR TIMES KUGpDAG KISIM5 TIMES U2 PLUS MASHs3qISH PLUS SHUqUB TIMES SHEpEZEN TI",
     "MES GUDz SHEpGA2 TIMES AN PLUS KAK PLUS AzASH2qE22qIGpHUSHpKA TIMES ANSHE"]),
    (0x1237F,
    ["aCUNEIFORM SIGN KA TIMES ASH3yGISHzUDyHI TIMES ASH2yLUMyPAySHULyTUyUR2pLAGAB TIMES GIqU2 S",
     "HESHIG TIMES BADtTIMES ESH2 PLUS LALzSHUpMESHqUSH3 TIMES ZApNA4qINs9sDA2 TIMES BALzES GIqU",
     "11 ROTATED NINETY DEGREESpPESH2 ASTERISKqIR2pSAG TIMES IGI GUNUpTI2pUM TIMES MEq U"]),
    (0x12400,
    ["aCUNEIFORM NUMERIC SIGN TWO ASHyHREE ASHxFOUR ASHyIVE ASHxSIX ASHyEVEN ASHxEIGHT ASHxNINE ",
     "ASHxTHREE DISHxFOUR DISHyIVE DISHxSIX DISHyEVEN DISHxEIGHT DISHxNINE DISHxFOUR UyIVE UxSIX",
     " UyEVEN UxEIGHT UxNINE UxONE GESH2xTWO GESH2yHREE GESH2xFOUR GESH2yIVE GESH2xSIX GESH2yEVE",
     "N GESH2xEIGHT GESH2xNINE GESH2xONE GESHUxTWO GESHUyHREE GESHUxFOUR GESHUyIVE GESHUxTWO SHA",
     "R2yHREE SHAR2zREE SHAR2 VARIANT FORMxFOUR SHAR2yIVE SHAR2xSIX SHAR2yEVEN SHAR2xEIGHT SHAR2",
     "xNINE SHAR2xONE SHARUxTWO SHARUyHREE SHARUzREE SHARU VARIANT FORMxFOUR SHARUyIVE SHARUxSHA",
     "R2 TIMES GAL PLUS DISHzAR2 TIMES GAL PLUS MINxONE BURUxTWO BURUyHREE BURUzREE BURU VARIANT",
     " FORMxFOUR BURUyIVE BURUxTHREE VARIANT FORM ESH16zREE VARIANT FORM ESH21xFOUR VARIANT FORM",
     " LIMMUzUR VARIANT FORM LIMMU4zUR VARIANT FORM LIMMU AzUR VARIANT FORM LIMMU B"]),
    (0x12440,
    ["aCUNEIFORM NUMERIC SIGN SIX VARIANT FORM ASH9yEVEN VARIANT FORM IMIN3zVEN VARIANT FORM IMI",
     "N AzVEN VARIANT FORM IMIN BxEIGHT VARIANT FORM USSUzGHT VARIANT FORM USSU3xNINE VARIANT FO",
     "RM ILIMMUzNE VARIANT FORM ILIMMU3zNE VARIANT FORM ILIMMU4zNE VARIANT FORM ILIMMU AxTWO ASH",
     " TENUyHREE ASH TENUxFOUR ASH TENUyIVE ASH TENUxSIX ASH TENUxONE BAN2xTWO BAN2yHREE BAN2xFO",
     "UR BAN2zUR BAN2 VARIANT FORMyIVE BAN2zVE BAN2 VARIANT FORMxNIGIDAMINzGIDAESHxONE ESHE3xTWO",
     " ESHE3xONE THIRD DISHxTWO THIRDS DISHxFIVE SIXTHS DISHxONE THIRD VARIANT FORM AxTWO THIRDS",
     " VARIANT FORM AxONE EIGHTH ASHzE QUARTER ASHyLD ASSYRIAN ONE SIXTHzD ASSYRIAN ONE QUARTERy",
     "NE QUARTER GURzE HALF GURxELAMITE ONE THIRDzAMITE TWO THIRDSzAMITE FORTYzAMITE FIFTYxFOUR ",
     "U VARIANT FORMyIVE U VARIANT FORMxSIX U VARIANT FORMyEVEN U VARIANT FORMxEIGHT U VARIANT F",
     "ORMxNINE U VARIANT FORM"]),
    (0x12470,
    ["aCUNEIFORM PUNCTUATION SIGN OLD ASSYRIAN WORD DIVIDERzN VERTICAL COLONzN DIAGONAL COLONzN ",
     "DIAGONAL TRICOLONzN DIAGONAL QUADCOLON"]),
    (0x12480,
    ["aCUNEIFORM SIGN AB TIMES NUN TENUySHU2qD TIMES ESH2pBAD TIMES DISH TENUrHAR2 TIMES AB2zES ",
     "NIzES ZAqU OVER BU TIMES NA2pDA TIMES TAK4rG TIMES KURqIM TIMES IGIzU U Us2 TIMES UDqUG TI",
     "MES ANSHEzASHzASH AT LEFTzDINzDUNzERIN2zGAzGIzGIR2 GUNUzGISHzHAzHIzIGI GUNUzKASKALzKURzKUS",
     "HU2zKUSHU2 PLUS KASKALzLAK-020zLAMzLAM TIMES KURzLUH PLUS GISHzMASHzMESzMIzNIzPIzSHEzSI GU",
     "NUpE2 TIMES KURyPAPqRIN2 XqSH2 CROSSING ESH2qZEN SHESHIG TIMES ASHzIG TIMES HIzIG TIMES IG",
     "I GUNUzIG TIMES LAzIG TIMES LALzIG TIMES MEzIG TIMES MESzIG TIMES SUuTIMES SUpGA2 TIMES BA",
     "HAR2zDIM GUNUzDUG TIMES IGI GUNUzDUG TIMES KASKALzERENzGAzGAR PLUS DIzGAR PLUS NEzHA PLUS ",
     "AzKUSHU2 PLUS KASKAL"]),
    (0x124C0,
    ["aCUNEIFORM SIGN GA2 TIMES LAMzLAM TIMES KURzLUHzMUSHzNEzNE PLUS E2zNE PLUS GIzSHIMzZIZ2rBA",
     " ROTATED NINETY DEGREESqESHTIN TIMES UqISH TIMES GISH CROSSING GISHqU2 TIMES IGI GUNUrD PL",
     "US GISH TIMES TAK4pHA TENU GUNUqI TIMES ASH OVER HI TIMES ASHpKA TIMES BUyKAyU U UzRpLAGAB",
     " TIMES ZU OVER ZUrK-003u21v5u30u50v1u62u79 OVER LAK-079 GUNUu80v1 OVER LAK-081u92t130u42t2",
     "10v9u20v5v8u38u65v6t343v7v8u83v4u90t441v9w TIMES GUzMES IGIzMES PAP PLUS LU3zMES PAP PLUS ",
     "PAP PLUS LU3zMES U2 PLUS BAu50v7u70u83u90v2v3v5t550"]),
    (0x12500,
    ["aCUNEIFORM SIGN LAK-608u17w TIMES ASHzMES BADzMES DUN3 GUNU GUNUzMES KU3zMES LAzMES TARzME",
     "S TEzMES U2zMES UDzMES URUDAu36u48w TIMES DUBzMES GAzMES IGIzMES IGI GUNUzMES NIzMES PAP P",
     "LUS PAP PLUS LU3zMES SHESH PLUS KIzMES UDzMES URUDAt724u49qU2 GUNU TIMES ASHtTIMES DISHzHA",
     "LzPAPzPAP PLUS PAP PLUS LU3zTAK4pMI PLUS ZA7qUSH OVER MUSH TIMES GAzMUSH TIMES KAKpNINDA2 ",
     "TIMES DIM GUNUzES GISHzES GULzES HIzES KESH2zES LAK-050zES MASHzES PAP PLUS PAPzES UzES U ",
     "PLUS UzES URUDApSAG GUNU TIMES HAtTIMES ENzSHE AT LEFTzTAK4qHA6 TENUrE OVER SHEtPLUS HUB2y",
     "NAM2ySARrU2 PLUS DUG TIMES NIzE2 TIMES ANqI TIMES TAK4pTAK4 PLUS SAGqUM TIMES GAN2 TENUzTH",
     "REE DISHpUR2 INVERTEDtTIMES UDrU TIMES DARA3zLAK-668"]),
    (0x12540,
    ["aCUNEIFORM SIGN URU TIMES LU3pZA7qU OVER ZU PLUS SARr5 TIMES THREE DISH TENU"]),
    (0x12F90,
    ["aCYPRO-MINOAN SIGN CM001w2w4w5w6w7w8w9v10w1w2xBw3w5w7w9v21w3w4w5w6w7w8w9v30w3w4w5w6w7w8w9v",
     "40w1w4w6w7w9v50w1w2w3w4w5w6w8w9v60w1w2w3w4w6w7w8w9v70w1w2w3w4w5xBw6"]),
    (0x12FD0,
    ["aCYPRO-MINOAN SIGN CM078w9v80w1w2w3w4w5w6w7w8w9v90w1w2w4w5w6w7w8w9u100w1w2w3w4w5w7w8w9v10w",
     "2w4u301w2"])]

end MockApi.Text
