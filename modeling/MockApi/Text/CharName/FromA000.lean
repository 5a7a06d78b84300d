/-!
# Names of characters: U+A000 to U+FFFD

* `namesFromA000` : runs of characters with their names, in the form that `Text.charOfName?` reads.

The names are those of Unicode 14.
-/

namespace MockApi.Text

def namesFromA000 : List (Nat × List String) :=
   [(0xA000,
    ["aYI SYLLABLE ITnXnnPnEToXooPmATnXnnPmUOXooPmOTnXnnPmEXnmWUmBIToXooPoETpXppPnAToXooPnUOXppP",
     "nOToXooPnEXooPnUToXooPoRXpnYToXooPoRXpmPIToXooPoEXppPnAT"]),
    (0xA040,
    ["aYI SYLLABLE PAXooPnUOXppPnOToXooPnUToXooPoRXpnYToXooPoRXpmBBITpXppPpETqXqqPoATpXppPoUOXqq",
     "PoOTpXppPoEXppPoUTpXppPpRXqoYTpXppPmNBITpXppPpEXqqPoATpXp"]),
    (0xA080,
    ["aYI SYLLABLE NBAPoOTpXppPoUTpXppPpRXqoYTpXppPpRXqmHMITpXppPpEXqqPoATpXppPoUOXqqPoOTpXppPoU",
     "TpXppPpRXqoYXppPpRXqmMIToXooPoEXppPnAToXooPnUOTpXppPnOToXo"]),
    (0xA0C0,
    ["aYI SYLLABLE MOPnEXonUToXooPoRXpnYToXooPmFIToXooPnAToXooPnOXooPnUToXooPoRXpnYToXooPmVIToXo",
     "oPoETpXppPnAToXooPnOToXooPnEXoPnUToXooPoRXpnYToXooPoRXp"]),
    (0xA100,
    ["aYI SYLLABLE DIToXooPoEXppPnAToXooPnUOXpnOToXooPnEXooPnUToXooPoRXpmTIToXooPoEXppPnAToXooPn",
     "UOTpXppPnOToXooPnEXooPnUToXooPoRXpmDDITpXppPpEXqqPoATpXp"]),
    (0xA140,
    ["aYI SYLLABLE DDAPoUOXqqPoOTpXppPoEXppPoUTpXppPpRXqmNDITpXppPpEXqoATpXppPoOTpXppPoEXppPoUTp",
     "XppPpRXqmHNITpXppPpETqXqqPoATpXppPoUOXqoOTpXpPoEXppPoUTmNIToXo"]),
    (0xA180,
    ["aYI SYLLABLE NIPoEXppPnAXooPnUOXppPnOToXooPnEXooPnUToXooPoRXpmHLITpXppPpEXqqPoATpXppPoUOXq",
     "qPoOXppPoEXppPoUTpXppPpRXqoYTpXppPpRXqmLIToXooPoETpXppPnAT"]),
    (0xA1C0,
    ["aYI SYLLABLE LAXooPnUOTpXppPnOToXooPnEXooPnUToXooPoRXpnYToXooPoRXpmGIToXooPoETpXppPnAToXoo",
     "PnUOTpXppPnOToXooPnEToXooPnUToXooPoRXpmKIToXooPoEXppPnAT"]),
    (0xA200,
    ["aYI SYLLABLE KAXooPnUOXppPnOToXooPnEToXooPnUToXooPoRXpmGGITpXppEXqqPoATpXppPoUOTqXqqPoOTpX",
     "ppPoETpXppPoUTpXppPpRXqmMGIEXqoATpXppPoUOXqqPoOTpXppPoEXppP"]),
    (0xA240,
    ["aYI SYLLABLE MGUTpXppPpRXqmHXITpXppPpETqXqqPoATpXppPoUOTqXqqPoOTpXppPoEXppPmNGIEXqqPoATpXp",
     "pPoUOTqXqoOTpXppPoEXppPmHIToEXpnAToXooPnUOTpXppPnOToXooPnEXooP"]),
    (0xA280,
    ["aYI SYLLABLE WAToXooPnUOXppPnOXooPnEXooPmZIToXooPoEXppPnAToXooPnUOXppPnOToXooPnEXooPnUToXo",
     "oPoRXpnYToXooPoRXpmCIToXooPoETpXppPnAToXooPnUOXppPnOToXo"]),
    (0xA2C0,
    ["aYI SYLLABLE COPnEXooPnUToXooPoRXpnYToXooPoRXpmZZITpXppPpETqXqqPoATpXppPoOXppPoEXppPoUXppP",
     "pRXqoYTpXppPpRXqmNZITpXppPpEXqqPoATpXppPoUOXqoOXpPoEXpoUXp"]),
    (0xA300,
    ["aYI SYLLABLE NZUPpRXqoYTpXppPpRXqmSIToXooPoEXppPnAToXooPnUOXppPnOToXooPnEXooPnUToXooPoRXpn",
     "YToXooPoRXpnSITpXppPpEXqqPoATpXppPoOTpXppPoEXppPoUTpXppP"]),
    (0xA340,
    ["aYI SYLLABLE SSYTpXppPpRXqmZHATpXppPoUOXqqPoOTpXppPoETpXppPoUTpXppPpRXqoYTpXppPpRXqmCHATpX",
     "ppPoUOTqXqqPoOTpXppPoETpXppPoUXppPpRXqoYTpXppPpRXqmRRAXpoUOXq"]),
    (0xA380,
    ["aYI SYLLABLE RROTpXppPoETpXppPoUTpXppPpRXqoYTpXppPpRXqmNRATpXppPoOXppPoETpXppPoUTpXppPpRXq",
     "oYTpXppPpRXqmSHATpXppPoUOXqqPoOTpXppPoETpXppPoUTpXppPpRXq"]),
    (0xA3C0,
    ["aYI SYLLABLE SHYTpXppPpRXqmRAToXooPnUOXppPnOToXooPnEXooPnUToXooPoRXpnYToXooPoRXpmJIToXooPo",
     "ETpXppPnUOTpXppPnOToXooPnUToXooPoRXpnYToXooPoRXpmQIToXooP"]),
    (0xA400,
    ["aYI SYLLABLE QIETpXppPnUOTpXppPnOToXooPnUToXooPoRXpnYToXooPoRXpmJJITpXppPpETqXqqPoUOXqqPoO",
     "TpXppPoUTpXppPpRXqoYTpXppPmNJITpXppPpETqXqqPoUOXqoOTpXppPoUX"]),
    (0xA440,
    ["aYI SYLLABLE NJUpPpRXqoYTpXppPpRXqnYITpXppPpETqXqqPoUOXqqPoOTpXppPoUTpXppPmXIToXooPoETpXpp",
     "PnUOXpnOToXooPnYToXooPoRXpmYIToXooPoETpXppPnUOTpXppPnOToXo"]),
    (0xA480,
    ["aYI SYLLABLE YOPnUToXooPoRXpnYToXooPoRXp"]),
    (0xA490,
    ["aYI RADICAL QOTlLIlKITlNYIPlCYPlSSIlGGOPmEPlMIlHXITlLYRlBBUTlMOPlYOlPUTlHXUOlTATlGAlZUPlCY",
     "TlDDURlBURlGGUOlNYOPlTUlOPlJJUTlZOTlPYTlHMOlYITlVURlSHYlVEPlZAlJOlNZUPlJJYlGOTlJJIElWOlDUl",
     "SHURlLIElCYmUOPmIPlHXOPlSHATlZURlSHOPlCHElZZIETlNBIElKE"]),
    (0xA4D0,
    ["aLISU LETTER BAmPAnHAmDAmTAnHAmGAmKAnHAmJAmCAnHAmDZAmTSAoHAmMAmNAmLAmSAmZHAnAmNGAmHAmXAmHH",
     "AmFAmWAmSHAmYAmGHAmAnEmEnUmImOmUnEnHmOEmTONE MYA TIrNA POrMYA CYAvBOvNAvJEUfPUNCTUATION CO",
     "MMArFULL STOPaVAI SYLLABLE EEpNnHEEnWEEqNnPEEnBHEEoEEnMBEEnKPEEnMGBEEnGBEEnFEEnVEEnTEEoHEE"]),
    (0xA510,
    ["aVAI SYLLABLE DHEEpHEEnLEEnREEnDEEnNDEEnSEEoHEEnZEEoHEEnCEEnJEEnNJEEnYEEnKEEnNGGEEnGEEnMEE",
     "nNEEoYEEnIoNnHIpNnWIpNnPInBHIoInMBInKPInMGBInGBInFInVInTIoHInDHIpHInLInRInDInNDInSIoHInZIo",
     "HInCInJInNJInYInKInNGGInGInMInNIoYInAoNnNGANnHApNnWApN"]),
    (0xA550,
    ["aVAI SYLLABLE PAnBHAoAnMBAnKPAqNnMGBAnGBAnFAnVAnTAoHAnDHApHAnLAnRAnDAnNDAnSAoHAnZAoHAnCAnJ",
     "AnNJAnYAnKApNnNGGAnGAnMAnNAoYAnOOpNnHOOnWOOqNnPOOnBHOOoOOnMBOOnKPOOnMGBOOnGBOOnFOOnVOOnTOO",
     "oHOOnDHOOpHOOnLOOnROOnDOOnNDOOnSOOoHOOnZOOoHOOnCOOnJOOnNJOOnYOOnKOO"]),
    (0xA590,
    ["aVAI SYLLABLE NGGOOnGOOnMOOnNOOoYOOnUoNnHUpNnWUpNnPUnBHUoUnMBUnKPUnMGBUnGBUnFUnVUnTUoHUnDH",
     "UpHUnLUnRUnDUnNDUnSUoHUnZUoHUnCUnJUnNJUnYUnKUnNGGUnGUnMUnNUoYUnOoNnNGONnHOpNnWOpNnPOnBHOoO",
     "nMBOnKPOnMGBOnGBOqNnFOnVOnTOoHOnDHOpHOnLO"]),
    (0xA5D0,
    ["aVAI SYLLABLE ROnDOnNDOnSOoHOnZOoHOnCOnJOnNJOnYOnKOnNGGOnGOnMOnNOoYOnEoNnNGENnHEpNnWEpNnPE",
     "nBHEoEnMBEnKPEqNnMGBEnGBEqNnFEnVEnTEoHEnDHEpHEnLEnREnDEnNDEnSEoHEnZEoHEnCEnJEnNJEnYEnKEnNG",
     "GErNnGEpNnMEnNEoYEoGnLENGTHENEReCOMMAeFULL STOPeQUESTION MARK"]),
    (0xA610,
    ["aVAI SYLLABLE NDOLE FAtKAtSOOgMBOL FEENGlKEENGlTINGlNIIlBANGlFAAlTAAlDANGmOONGlKUNGlTONGlD",
     "O-OlJONGeDIGIT ZEROkONEkTWOlHREEkFOURlIVEkSIXlEVENkEIGHTkNINEeSYLLABLE NDOLE MAtDO"]),
    (0xA640,
    ["aCYRILLIC CAPITAL LETTER ZEMLYAjSMALL LETTER ZEMLYAjCAPITAL LETTER DZELOjSMALL LETTER DZEL",
     "OjCAPITAL LETTER REVERSED DZEjSMALL LETTER REVERSED DZEjCAPITAL LETTER IOTAjSMALL LETTER I",
     "OTAjCAPITAL LETTER DJERVjSMALL LETTER DJERVjCAPITAL LETTER MONOGRAPH UKjSMALL LETTER MONOG",
     "RAPH UKjCAPITAL LETTER BROAD OMEGAjSMALL LETTER BROAD OMEGAjCAPITAL LETTER NEUTRAL YERjSMA",
     "LL LETTER NEUTRAL YERjCAPITAL LETTER YERU WITH BACK YERjSMALL LETTER YERU WITH BACK YERjCA",
     "PITAL LETTER IOTIFIED YATjSMALL LETTER IOTIFIED YATjCAPITAL LETTER REVERSED YUjSMALL LETTE",
     "R REVERSED YUjCAPITAL LETTER IOTIFIED AjSMALL LETTER IOTIFIED AjCAPITAL LETTER CLOSED LITT",
     "LE YUSjSMALL LETTER CLOSED LITTLE YUSjCAPITAL LETTER BLENDED YUSjSMALL LETTER BLENDED YUSj",
     "CAPITAL LETTER IOTIFIED CLOSED LITTLE YUSjSMALL LETTER IOTIFIED CLOSED LITTLE YUSjCAPITAL ",
     "LETTER YNjSMALL LETTER YNjCAPITAL LETTER REVERSED TSEjSMALL LETTER REVERSED TSEjCAPITAL LE",
     "TTER SOFT DEjSMALL LETTER SOFT DEjCAPITAL LETTER SOFT ELjSMALL LETTER SOFT ELjCAPITAL LETT",
     "ER SOFT EMjSMALL LETTER SOFT EMjCAPITAL LETTER MONOCULAR OjSMALL LETTER MONOCULAR OjCAPITA",
     "L LETTER BINOCULAR OjSMALL LETTER BINOCULAR OjCAPITAL LETTER DOUBLE MONOCULAR OjSMALL LETT",
     "ER DOUBLE MONOCULAR OjLETTER MULTIOCULAR ObOMBINING CYRILLIC VZMETtTEN MILLIONS SIGNtHUNDR",
     "ED MILLIONS SIGNtTHOUSAND MILLIONS SIGNaSLAVONIC ASTERISKaCOMBINING CYRILLIC LETTER UKRAIN",
     "IAN IEz Iz YIz Uz HARD SIGNz YERUz SOFT SIGNz OMEGAtKAVYKAtPAYEROKbYRILLIC KAVYKAjPAYEROK"]),
    (0xA680,
    ["aCYRILLIC CAPITAL LETTER DWEjSMALL LETTER DWEjCAPITAL LETTER DZWEjSMALL LETTER DZWEjCAPITA",
     "L LETTER ZHWEjSMALL LETTER ZHWEjCAPITAL LETTER CCHEjSMALL LETTER CCHEjCAPITAL LETTER DZZEj",
     "SMALL LETTER DZZEjCAPITAL LETTER TE WITH MIDDLE HOOKjSMALL LETTER TE WITH MIDDLE HOOKjCAPI",
     "TAL LETTER TWEjSMALL LETTER TWEjCAPITAL LETTER TSWEjSMALL LETTER TSWEjCAPITAL LETTER TSSEj",
     "SMALL LETTER TSSEjCAPITAL LETTER TCHEjSMALL LETTER TCHEjCAPITAL LETTER HWEjSMALL LETTER HW",
     "EjCAPITAL LETTER SHWEjSMALL LETTER SHWEjCAPITAL LETTER DOUBLE OjSMALL LETTER DOUBLE OjCAPI",
     "TAL LETTER CROSSED OjSMALL LETTER CROSSED OaMODIFIER LETTER CYRILLIC HARD SIGNzSOFT SIGNaC",
     "OMBINING CYRILLIC LETTER EFz IOTIFIED EaBAMUM LETTER AnKAnUnKUnEEnREEnTAEnOnNYInInLAnPAnRI",
     "IpEEnLEEEEnMEEEEnTAAnNDAAoJAEMnMnSUUnMUnSHIIoIoHEUXoEUXnKYEEoETnNUAEpoJUAEnYOQ"]),
    (0xA6C0,
    ["aBAMUM LETTER SHUnYUQoAnNSHAnKEUXnPEUXnNJEEoTEEnPUEnWUEnPEEnFEEnRUnLUnMInNInREUXoAEnKENnNG",
     "KWAENpGApAnSHOnPUAEnFUoOMnWAnNAnLInPInLOQnKOnMBENnRENnMENoAnTInKInMOoBAAnTETnKPAnTENnNTUUn",
     "SAMBAnFAAMAEnKOVUUpGHOMgCOMBINING MARK KOQNDONvTUKWENTISgNJAEMLIgFULL STOPgCOLONiMMAgSEMIC",
     "OLONgQUESTION MARK"]),
    (0xA700,
    ["aMODIFIER LETTER CHINESE TONE YIN PINGzONE YANG PINGzONE YIN SHANGzONE YANG SHANGzONE YIN ",
     "QUzONE YANG QUzONE YIN RUzONE YANG RUqEXTRA-HIGH DOTTED TONE BARqHIGH DOTTED TONE BARqMID ",
     "DOTTED TONE BARqLOW DOTTED TONE BARqEXTRA-LOW DOTTED TONE BARwHIGH DOTTED LEFT-STEM TONE B",
     "ARqHIGH DOTTED LEFT-STEM TONE BARqMID DOTTED LEFT-STEM TONE BARqLOW DOTTED LEFT-STEM TONE ",
     "BARqEXTRA-LOW DOTTED LEFT-STEM TONE BARwHIGH LEFT-STEM TONE BARqHIGH LEFT-STEM TONE BARqMI",
     "D LEFT-STEM TONE BARqLOW LEFT-STEM TONE BARqEXTRA-LOW LEFT-STEM TONE BARqDOT VERTICAL BARu",
     "SLASHuHORIZONTAL BARqLOWER RIGHT CORNER ANGLEqRAISED UP ARROWxDOWN ARROWxEXCLAMATION MARKx",
     "INVERTED EXCLAMATION MARKqLOW INVERTED EXCLAMATION MARKqSTRESS AND HIGH TONEzD LOW TONEaLA",
     "TIN CAPITAL LETTER EGYPTOLOGICAL ALEFgSMALL LETTER EGYPTOLOGICAL ALEFgCAPITAL LETTER EGYPT",
     "OLOGICAL AINgSMALL LETTER EGYPTOLOGICAL AINgCAPITAL LETTER HENGgSMALL LETTER HENGgCAPITAL ",
     "LETTER TZgSMALL LETTER TZgCAPITAL LETTER TRESILLOgSMALL LETTER TRESILLOgCAPITAL LETTER CUA",
     "TRILLOgSMALL LETTER CUATRILLOgCAPITAL LETTER CUATRILLO WITH COMMAgSMALL LETTER CUATRILLO W",
     "ITH COMMAgLETTER SMALL CAPITAL FzL SgCAPITAL LETTER AAgSMALL LETTER AAgCAPITAL LETTER AOgS",
     "MALL LETTER AOgCAPITAL LETTER AUgSMALL LETTER AUgCAPITAL LETTER AVgSMALL LETTER AVgCAPITAL",
     " LETTER AV WITH HORIZONTAL BARgSMALL LETTER AV WITH HORIZONTAL BARgCAPITAL LETTER AYgSMALL",
     " LETTER AYgCAPITAL LETTER REVERSED C WITH DOTgSMALL LETTER REVERSED C WITH DOT"]),
    (0xA740,
    ["aLATIN CAPITAL LETTER K WITH STROKEgSMALL LETTER K WITH STROKEgCAPITAL LETTER K WITH DIAGO",
     "NAL STROKEgSMALL LETTER K WITH DIAGONAL STROKEgCAPITAL LETTER K WITH STROKE AND DIAGONAL S",
     "TROKEgSMALL LETTER K WITH STROKE AND DIAGONAL STROKEgCAPITAL LETTER BROKEN LgSMALL LETTER ",
     "BROKEN LgCAPITAL LETTER L WITH HIGH STROKEgSMALL LETTER L WITH HIGH STROKEgCAPITAL LETTER ",
     "O WITH LONG STROKE OVERLAYgSMALL LETTER O WITH LONG STROKE OVERLAYgCAPITAL LETTER O WITH L",
     "OOPgSMALL LETTER O WITH LOOPgCAPITAL LETTER OOgSMALL LETTER OOgCAPITAL LETTER P WITH STROK",
     "E THROUGH DESCENDERgSMALL LETTER P WITH STROKE THROUGH DESCENDERgCAPITAL LETTER P WITH FLO",
     "URISHgSMALL LETTER P WITH FLOURISHgCAPITAL LETTER P WITH SQUIRREL TAILgSMALL LETTER P WITH",
     " SQUIRREL TAILgCAPITAL LETTER Q WITH STROKE THROUGH DESCENDERgSMALL LETTER Q WITH STROKE T",
     "HROUGH DESCENDERgCAPITAL LETTER Q WITH DIAGONAL STROKEgSMALL LETTER Q WITH DIAGONAL STROKE",
     "gCAPITAL LETTER R ROTUNDAgSMALL LETTER R ROTUNDAgCAPITAL LETTER RUM ROTUNDAgSMALL LETTER R",
     "UM ROTUNDAgCAPITAL LETTER V WITH DIAGONAL STROKEgSMALL LETTER V WITH DIAGONAL STROKEgCAPIT",
     "AL LETTER VYgSMALL LETTER VYgCAPITAL LETTER VISIGOTHIC ZgSMALL LETTER VISIGOTHIC ZgCAPITAL",
     " LETTER THORN WITH STROKEgSMALL LETTER THORN WITH STROKEgCAPITAL LETTER THORN WITH STROKE ",
     "THROUGH DESCENDERgSMALL LETTER THORN WITH STROKE THROUGH DESCENDERgCAPITAL LETTER VENDgSMA",
     "LL LETTER VENDgCAPITAL LETTER ETgSMALL LETTER ETgCAPITAL LETTER ISgSMALL LETTER ISgCAPITAL",
     " LETTER CONgSMALL LETTER CONaMODIFIER LETTER USaLATIN SMALL LETTER DUMtLUMtMUMtNUMtRUMgLET",
     "TER SMALL CAPITAL RUMgSMALL LETTER TUMtUMgCAPITAL LETTER INSULAR DgSMALL LETTER INSULAR Dg",
     "CAPITAL LETTER INSULAR FgSMALL LETTER INSULAR FgCAPITAL LETTER INSULAR GvTURNED INSULAR Gg",
     "SMALL LETTER TURNED INSULAR G"]),
    (0xA780,
    ["aLATIN CAPITAL LETTER TURNED LgSMALL LETTER TURNED LgCAPITAL LETTER INSULAR RgSMALL LETTER",
     " INSULAR RgCAPITAL LETTER INSULAR SgSMALL LETTER INSULAR SgCAPITAL LETTER INSULAR TgSMALL ",
     "LETTER INSULAR TaMODIFIER LETTER LOW CIRCUMFLEX ACCENTqCOLONqSHORT EQUALS SIGNaLATIN CAPIT",
     "AL LETTER SALTILLOgSMALL LETTER SALTILLOgCAPITAL LETTER TURNED HgSMALL LETTER L WITH RETRO",
     "FLEX HOOK AND BELTgLETTER SINOLOGICAL DOTgCAPITAL LETTER N WITH DESCENDERgSMALL LETTER N W",
     "ITH DESCENDERgCAPITAL LETTER C WITH BARgSMALL LETTER C WITH BARz PALATAL HOOKtH WITH PALAT",
     "AL HOOKgCAPITAL LETTER B WITH FLOURISHgSMALL LETTER B WITH FLOURISHgCAPITAL LETTER F WITH ",
     "STROKEgSMALL LETTER F WITH STROKEgCAPITAL LETTER VOLAPUK AEgSMALL LETTER VOLAPUK AEgCAPITA",
     "L LETTER VOLAPUK OEgSMALL LETTER VOLAPUK OEgCAPITAL LETTER VOLAPUK UEgSMALL LETTER VOLAPUK",
     " UEgCAPITAL LETTER G WITH OBLIQUE STROKEgSMALL LETTER G WITH OBLIQUE STROKEgCAPITAL LETTER",
     " K WITH OBLIQUE STROKEgSMALL LETTER K WITH OBLIQUE STROKEgCAPITAL LETTER N WITH OBLIQUE ST",
     "ROKEgSMALL LETTER N WITH OBLIQUE STROKEgCAPITAL LETTER R WITH OBLIQUE STROKEgSMALL LETTER ",
     "R WITH OBLIQUE STROKEgCAPITAL LETTER S WITH OBLIQUE STROKEgSMALL LETTER S WITH OBLIQUE STR",
     "OKEgCAPITAL LETTER H WITH HOOKvREVERSED OPEN EvSCRIPT GvL WITH BELTvSMALL CAPITAL IgLETTER",
     " SMALL CAPITAL QgCAPITAL LETTER TURNED KzED TvJ WITH CROSSED-TAILvCHIvBETAgSMALL LETTER BE",
     "TAgCAPITAL LETTER OMEGAgSMALL LETTER OMEGAgCAPITAL LETTER U WITH STROKEgSMALL LETTER U WIT",
     "H STROKEgCAPITAL LETTER GLOTTAL AgSMALL LETTER GLOTTAL AgCAPITAL LETTER GLOTTAL IgSMALL LE",
     "TTER GLOTTAL IgCAPITAL LETTER GLOTTAL UgSMALL LETTER GLOTTAL U"]),
    (0xA7C0,
    ["aLATIN CAPITAL LETTER OLD POLISH OgSMALL LETTER OLD POLISH OgCAPITAL LETTER ANGLICANA WgSM",
     "ALL LETTER ANGLICANA WgCAPITAL LETTER C WITH PALATAL HOOKvS WITH HOOKvZ WITH PALATAL HOOKv",
     "D WITH SHORT STROKE OVERLAYgSMALL LETTER D WITH SHORT STROKE OVERLAYgCAPITAL LETTER S WITH",
     " SHORT STROKE OVERLAYgSMALL LETTER S WITH SHORT STROKE OVERLAY"]),
    (0xA7D0,
    ["aLATIN CAPITAL LETTER CLOSED INSULAR GgSMALL LETTER CLOSED INSULAR G"]),
    (0xA7D3,
    ["aLATIN SMALL LETTER DOUBLE THORN"]),
    (0xA7D5,
    ["aLATIN SMALL LETTER DOUBLE WYNNgCAPITAL LETTER MIDDLE SCOTS SgSMALL LETTER MIDDLE SCOTS Sg",
     "CAPITAL LETTER SIGMOID SgSMALL LETTER SIGMOID S"]),
    (0xA7F2,
    ["aMODIFIER LETTER CAPITAL CyFyQaLATIN CAPITAL LETTER REVERSED HALF HgSMALL LETTER REVERSED ",
     "HALF HgEPIGRAPHIC LETTER SIDEWAYS IaMODIFIER LETTER CAPITAL H WITH STROKEqSMALL LIGATURE O",
     "EaLATIN LETTER SMALL CAPITAL TURNED MgEPIGRAPHIC LETTER REVERSED FzEVERSED PyINVERTED Mz L",
     "ONGAyARCHAIC MaSYLOTI NAGRI LETTER AuInSIGN DVISVARAnLETTER UuEuOnSIGN HASANTAnLETTER KOvH",
     "OuGOvHOnSIGN ANUSVARAnLETTER COvHOuJOvHOuTTOwHOuDDOwHOuTOvHOuDOvHOuNOuPOvHOuBOvHOuMOuROuLO",
     "uRROuSOuHOnVOWEL SIGN AyIyUyEyOOnPOETRY MARK-1z2z3z4nSIGN ALTERNATE HASANTA"]),
    (0xA830,
    ["aNORTH INDIC FRACTION ONE QUARTERzHALFvTHREE QUARTERSvONE SIXTEENTHzEIGHTHvTHREE SIXTEENTH",
     "SmQUARTER MARKmPLACEHOLDER MARKmRUPEE MARKmQUANTITY MARK"]),
    (0xA840,
    ["aPHAGS-PA LETTER KArHAqGAqNGAqCArHAqJAqNYAqTArHAqDAqNAqPArHAqBAqMAqTSAsHAqDZAqWAqZHArAqSMA",
     "LL AqYAqRAqLAqSHArAqHAqAqIqUqEqOqQAqXAqFAqGGAqEEjSUBJOINED LETTER WAz YAjLETTER TTAsHAqDDA",
     "qNNAqALTERNATE YAqVOICELESS SHAvD HAqASPIRATED FAjSUBJOINED LETTER RAlPERFIXED LETTER RAjL",
     "ETTER CANDRABINDUjSINGLE HEAD MARKjDOUBLE HEAD MARKjMARK SHADoDOUBLE SHAD"]),
    (0xA880,
    ["aSAURASHTRA SIGN ANUSVARAqVISARGAlLETTER AtAsItIsUtUsVOCALIC Rz RRz Lz LLsEtEsAIsOtOsAUsKA",
     "tHAsGAtHAsNGAsCAtHAsJAtHAsNYAsTTAuHAsDDAuHAsNNAsTAtHAsDAtHAsNAsPAtHAsBAtHAsMAsYAsRAsLAsVAs",
     "SHAtSAtAsHAsLLAlCONSONANT SIGN HAARUlVOWEL SIGN AAwIxIwUxUwVOCALIC RzALIC RRzALIC LzALIC L",
     "LwExE"]),
    (0xA8C0,
    ["aSAURASHTRA VOWEL SIGN AIwOxOwAUlSIGN VIRAMAqCANDRABINDU"]),
    (0xA8CE,
    ["aSAURASHTRA DANDAmOUBLE DANDAmIGIT ZEROrONErTWOsHREErFOURsIVErSIXsEVENrEIGHTrNINE"]),
    (0xA8E0,
    ["aCOMBINING DEVANAGARI DIGIT ZEROzT ONEzT TWOzT THREEzT FOURzT FIVEzT SIXzT SEVENzT EIGHTzT",
     " NINEvLETTER AzER UzER KAzER NAzER PAzER RAzER VIvSIGN AVAGRAHAaDEVANAGARI SIGN SPACING CA",
     "NDRABINDUqCANDRABINDU VIRAMAqDOUBLE CANDRABINDU VIRAMAqCANDRABINDU TWOzDU THREEzDU AVAGRAH",
     "AqPUSHPIKAlGAP FILLERlCARETlHEADSTROKElSIGN SIDDHAMlJAIN OMlLETTER AYlVOWEL SIGN AYaKAYAH ",
     "LI DIGIT ZEROpONEpTWOqHREEpFOURqIVEpSIXqEVENpEIGHTpNINEjLETTER KArHAqGAqNGAqSArHAqZAqNYAqT",
     "AqHTAqNAqPArHAqMAqDAqBAqRAqYAqLAqWAqTHAqHA"]),
    (0xA920,
    ["aKAYAH LI LETTER VAqCAqAqOEqIqOOjVOWEL UEpEpUpEEpOjTONE PLOPHUoCALYAt PLOPHUjSIGN CWIoSHYA",
     "aREJANG LETTER KAoGAoNGAoTAoDAoNAoPAoBAoMAoCAoJAoNYAoSAoRAoLAoYAoWAoHAoMBAoNGGApDApYJAoAhV",
     "OWEL SIGN IsUsEsAIsOsAUsEUtAhCONSONANT SIGN NGxwRwHhVIRAMA"]),
    (0xA95F,
    ["aREJANG SECTION MARKaHANGUL CHOSEONG TIKEUT-MIEUMxPIEUPxSIOSxCIEUCqRIEUL-KIYEOKwSSANGKIYEO",
     "KwTIKEUTwSSANGTIKEUTwMIEUMwPIEUPwSSANGPIEUPwKAPYEOUNPIEUPwSIOSwCIEUCwKHIEUKHqMIEUM-KIYEOKw",
     "TIKEUTwSIOSqPIEUP-SIOS-THIEUTHwKHIEUKHwHIEUHqSSANGSIOS-PIEUPqIEUNG-RIEULwHIEUHqSSANGCIEUC-",
     "HIEUHvTHIEUTHqPHIEUPH-HIEUHqHIEUH-SIOSqSSANGYEORINHIEUH"]),
    (0xA980,
    ["aJAVANESE SIGN PANYANGGAoCECAKoLAYARoWIGNYANjLETTER AqI KAWIrrIqUqPA CEREKqNGA LELETz RASW",
     "ADIqEqAIqOqKAs SASAKtMURDAqGAs MURDAqNGAqCAs MURDAqJAqNYA MURDAqJA MAHAPRANAqNYAqTTAt MAHA",
     "PRANAqDDAt MAHAPRANAqNA MURDAqTAs MURDAqDAs MAHAPRANAqNAqPAs MURDAqBAs MURDAqMAqYAqRAs AGU",
     "NGqLAqWAqSA MURDAuAHAPRANAsqHAjSIGN CECAK TELUjVOWEL SIGN TARUNGvOLONGuWULUy MELIKuSUKUy M",
     "ENDUTuTALINGuDIRGA MUREuPEPETjCONSONANT SIGN KERETyPENGKALyCAKRA"]),
    (0xA9C0,
    ["aJAVANESE PANGKONjLEFT RERENGGANjRIGHT RERENGGANjPADA ANDAPoMADYAoLUHURoWINDUoPANGKAToLING",
     "SApUNGSIoADEGs ADEGoPISELEHjTURNED PADA PISELEH"]),
    (0xA9CF,
    ["aJAVANESE PANGRANGKEPjDIGIT ZEROpONEpTWOqHREEpFOURqIVEpSIXqEVENpEIGHTpNINE"]),
    (0xA9DE,
    ["aJAVANESE PADA TIRTA TUMETESoISEN-ISENaMYANMAR LETTER SHAN GHAuCHAuJHAuNNAuBHAiSIGN SHAN S",
     "AWiMODIFIER LETTER SHAN REDUPLICATIONiLETTER TAI LAING NYAzFAzGAzGHAzJAzJHAzDDAzDDHAzNNAiT",
     "AI LAING DIGIT ZEROyONEyTWOzHREEyFOURzIVEySIXzEVENyEIGHTyNINEiLETTER TAI LAING LLAzDAzDHAz",
     "BAzBHA"]),
    (0xAA00,
    ["aCHAM LETTER AmImUmEmAImOmKAnHAmGAnHAmNGUEoAmCHAoHAmJAnHAmNHUEoAoJAmTAnHAmDAnHAmNUEnAmDDAm",
     "PAnPAnHAmBAnHAmMUEnAmBBAmYAmRAmLAmVAmSSAnAmHAfVOWEL SIGN AAqIrIqEIqUqOErqAIrUqUEfCONSONANT",
     " SIGN YAuRAuLAuWA"]),
    (0xAA40,
    ["aCHAM LETTER FINAL KsGsNGfCONSONANT SIGN FINAL NGfLETTER FINAL CHsTsNsPsYsRsLsSSfCONSONANT",
     " SIGN FINAL Mz H"]),
    (0xAA50,
    ["aCHAM DIGIT ZEROlONElTWOmHREElFOURmIVElSIXmEVENlEIGHTlNINE"]),
    (0xAA5C,
    ["aCHAM PUNCTUATION SPIRALrDANDAsOUBLE DANDArTRIPLE DANDAaMYANMAR LETTER KHAMTI GAwCAxHAwJAx",
     "HAwNYAwTTAyHAwDDAyHAxHAwNAwSAwHAxHAwFAiMODIFIER LETTER KHAMTI REDUPLICATIONiLETTER KHAMTI ",
     "XAwZAwRAjOGOGRAM KHAMTI OAYyQNyHMiSYMBOL AITON EXCLAMATIONvONEvTWOiLETTER AITON RAiSIGN PA",
     "O KAREN TONEnTAI LAING TONE-2zNE-5iLETTER SHWE PALAUNG CHAzNG SHAaTAI VIET LETTER LOW KOqH",
     "IGH KOqLOW KHOqHIGH KHOqLOW KHHOqHIGH KHHOqLOW GOqHIGH GOqLOW NGOqHIGH NGOqLOW COqHIGH COq",
     "LOW CHOqHIGH CHOqLOW SOqHIGH SOqLOW NYOqHIGH NYOqLOW DOqHIGH DOqLOW TOqHIGH TOqLOW THOqHIG",
     "H THOqLOW NOqHIGH NOqLOW BOqHIGH BO"]),
    (0xAA9C,
    ["aTAI VIET LETTER LOW POqHIGH POqLOW PHOqHIGH PHOqLOW FOqHIGH FOqLOW MOqHIGH MOqLOW YOqHIGH",
     " YOqLOW ROqHIGH ROqLOW LOqHIGH LOqLOW VOqHIGH VOqLOW HOqHIGH HOqLOW OqHIGH OjMAI KANGjVOWE",
     "L AApIpUEqpEpOjMAI KHITjVOWEL IApUEAqApAUEqYqNqMjTONE MAI EKsNUENGsTHOsSONG"]),
    (0xAADB,
    ["aTAI VIET SYMBOL KONqNUENGqSAMqHO HOIqKOI KOIaMEETEI MAYEK LETTER EuOuCHAuNYAuTTAwHAuDDAwH",
     "AuNNAuSHAvSAnVOWEL SIGN IIyUUyAAIzUzAUnCHEIKHANnAHANG KHUDAMoNJInSYLLABLE REPETITION MARKn",
     "WORD REPETITION MARKnVOWEL SIGN VISARGAoIRAMA"]),
    (0xAB01,
    ["aETHIOPIC SYLLABLE TTHUvIvAAvEEwvO"]),
    (0xAB09,
    ["aETHIOPIC SYLLABLE DDHUvIvAAvEEwvO"]),
    (0xAB11,
    ["aETHIOPIC SYLLABLE DZUuIuAAuEEvuO"]),
    (0xAB20,
    ["aETHIOPIC SYLLABLE CCHHAwUwIwAAwEExwO"]),
    (0xAB28,
    ["aETHIOPIC SYLLABLE BBAuUuIuAAuEEvuO"]),
    (0xAB30,
    ["aLATIN SMALL LETTER BARRED ALPHAtA REVERSED-SCHWAtBLACKLETTER EuARRED EtE WITH FLOURISHtLE",
     "NIS FtSCRIPT G WITH CROSSED-TAILtL WITH INVERTED LAZY Sz DOUBLE MIDDLE TILDEz MIDDLE RINGt",
     "M WITH CROSSED-TAILtN WITH CROSSED-TAILtENG WITH CROSSED-TAILtBLACKLETTER OzETTER O WITH S",
     "TROKEtOPEN O WITH STROKEtINVERTED OEtTURNED OE WITH STROKEz OE WITH HORIZONTAL STROKEz O O",
     "PEN-Oz O OPEN-O WITH STROKEtSTIRRUP RgLETTER SMALL CAPITAL R WITH RIGHT LEGgSMALL LETTER R",
     " WITHOUT HANDLEtDOUBLE RtR WITH CROSSED-TAILtDOUBLE R WITH CROSSED-TAILtSCRIPT Rz R WITH R",
     "INGtBASELINE ESHtU WITH SHORT RIGHT LEGvBAR WITH SHORT RIGHT LEGuItTURNED UItU WITH LEFT H",
     "OOKtCHIw WITH LOW RIGHT RINGzTH LOW LEFT SERIFtX WITH LOW RIGHT RINGz LONG LEFT LEGz LONG ",
     "LEFT LEG AND LOW RIGHT RINGz LONG LEFT LEG WITH SERIFtY WITH SHORT RIGHT LEGaMODIFIER BREV",
     "E WITH INVERTED BREVEjLETTER SMALL HENGwL WITH INVERTED LAZY SzITH MIDDLE TILDEwU WITH LEF",
     "T HOOKaLATIN SMALL LETTER SAKHA YATtIOTIFIED EtOPEN OEtUOtINVERTED ALPHAaGREEK LETTER SMAL",
     "L CAPITAL OMEGAaLATIN SMALL LETTER DZ DIGRAPH WITH RETROFLEX HOOKtTS DIGRAPH WITH RETROFLE",
     "X HOOKuURNED R WITH MIDDLE TILDEaMODIFIER LETTER SMALL TURNED WqLEFT TACKqRIGHT TACK"]),
    (0xAB70,
    ["aCHEROKEE SMALL LETTER AwEwIwOwUwVwGAwKAwGExIxOxUxVwHAxExIxOxUxVwLAxExIxOxUxVwMAxExIxOxUwN",
     "AwHNAwNAHxExIxOxUxVwQUAyEyIyOyUyVwSAxxExIxOxUxVwDAwTAwDEwTEwDIwTIwDOxUxVxLAwTLAyEyI"]),
    (0xABB0,
    ["aCHEROKEE SMALL LETTER TLOyUyVxSAyEyIyOyUyVwWAxExIxOxUxVwYAaMEETEI MAYEK LETTER KOKuSAMuLA",
     "IuMITuPAuNAuCHILuTILuKHOUuNGOUuTHOUuWAIuYANGuHUKuUNuIuPHAMuATIYAuGOKuJHAMuRAIuBAuJILuDILuG",
     "HOUuDHOUuBHAMuKOK LONSUMuLAI LONSUMuMIT LONSUMuPA LONSUMuNA LONSUMuTIL LONSUMuNGOU LONSUMu",
     "I LONSUMnVOWEL SIGN ONAPyINAPyANAPyYENAPySOUNAPyUNAPyCHEINAPyNUNGnCHEIKHEInLUM IYEKnAPUN I",
     "YEK"]),
    (0xABF0,
    ["aMEETEI MAYEK DIGIT ZEROtONEtTWOuHREEtFOURuIVEtSIXuEVENtEIGHTtNINE"]),
    (0xD7B0,
    ["aHANGUL JUNGSEONG O-YEOtO-IrYO-AvEuEOrU-YEOtI-IrYU-AEuOrEU-AuEOvuOrI-YA-OvEuEOvtO-ItYOuUtI",
     "rARAEA-AxE"]),
    (0xD7CB,
    ["aHANGUL JONGSEONG NIEUN-RIEULxCHIEUCHrSSANGTIKEUTzEUT-PIEUPrTIKEUT-PIEUPySIOSzIOS-KIYEOKyC",
     "IEUCzHIEUCHyTHIEUTHrRIEUL-SSANGKIYEOKxKIYEOK-HIEUHrSSANGRIEUL-KHIEUKHrRIEUL-MIEUM-HIEUHxPI",
     "EUP-TIKEUTzEUP-PHIEUPHxYESIEUNGzORINHIEUH-HIEUHrKAPYEOUNRIEULrMIEUM-NIEUNxSSANGNIEUNrSSANG",
     "MIEUMrMIEUM-PIEUP-SIOSxCIEUCrPIEUP-TIKEUTxRIEUL-PHIEUPHxMIEUMrSSANGPIEUPrPIEUP-SIOS-TIKEUT",
     "xCIEUCyHIEUCHrSIOS-MIEUMwKAPYEOUNPIEUPsSANGSIOS-KIYEOKzS-TIKEUTsIOS-PANSIOSwCIEUCxHIEUCHwT",
     "HIEUTHwHIEUHrPANSIOS-PIEUPzKAPYEOUNPIEUPrYESIEUNG-MIEUMz-HIEUHrCIEUC-PIEUPxSSANGPIEUPrSSAN",
     "GCIEUCrPHIEUPH-SIOSzTHIEUTH"]),
    (0xFB00,
    ["aLATIN SMALL LIGATURE FFwIwLwFIxLvLONG S TvST"]),
    (0xFB13,
    ["aARMENIAN SMALL LIGATURE MEN NOWzEN ECHzEN INIyVEW NOWyMEN XEH"]),
    (0xFB1D,
    ["aHEBREW LETTER YOD WITH HIRIQhPOINT JUDEO-SPANISH VARIKAhLIGATURE YIDDISH YOD YOD PATAHiET",
     "TER ALTERNATIVE AYINoWIDE ALEFtDALETtHEtKAFtLAMEDtFINAL MEMtRESHtTAVoALTERNATIVE PLUS SIGN",
     "oSHIN WITH SHIN DOTzIN DOTyDAGESH AND SHIN DOTzAGESH AND SIN DOToALEF WITH PATAHyQAMATSyMA",
     "PIQoBET WITH DAGESHoGIMEL WITH DAGESHoDALET WITH DAGESHoHE WITH MAPIQoVAV WITH DAGESHoZAYI",
     "N WITH DAGESH"]),
    (0xFB38,
    ["aHEBREW LETTER TET WITH DAGESHoYOD WITH DAGESHoFINAL KAF WITH DAGESHoKAF WITH DAGESHoLAMED",
     " WITH DAGESH"]),
    (0xFB3E,
    ["aHEBREW LETTER MEM WITH DAGESH"]),
    (0xFB40,
    ["aHEBREW LETTER NUN WITH DAGESHoSAMEKH WITH DAGESH"]),
    (0xFB43,
    ["aHEBREW LETTER FINAL PE WITH DAGESHoPE WITH DAGESH"]),
    (0xFB46,
    ["aHEBREW LETTER TSADI WITH DAGESHoQOF WITH DAGESHoRESH WITH DAGESHoSHIN WITH DAGESHoTAV WIT",
     "H DAGESHoVAV WITH HOLAMoBET WITH RAFEoKAF WITH RAFEoPE WITH RAFEiIGATURE ALEF LAMEDaARABIC",
     " LETTER ALEF WASLA ISOLATED FORMzFINAL FORMoBEEH ISOLATED FORMtFINAL FORMtINITIAL FORMtMED",
     "IAL FORMoPEH ISOLATED FORMsFINAL FORMsINITIAL FORMsMEDIAL FORMoBEHEH ISOLATED FORMuFINAL F",
     "ORMuINITIAL FORMuMEDIAL FORMoTTEHEH ISOLATED FORMvFINAL FORMvINITIAL FORMvMEDIAL FORMpEHEH",
     " ISOLATED FORMuFINAL FORMuINITIAL FORMuMEDIAL FORMpTEH ISOLATED FORMtFINAL FORMtINITIAL FO",
     "RMtMEDIAL FORMoVEH ISOLATED FORMsFINAL FORMsINITIAL FORMsMEDIAL FORMoPEHEH ISOLATED FORMuF",
     "INAL FORMuINITIAL FORMuMEDIAL FORMoDYEH ISOLATED FORMtFINAL FORMtINITIAL FORMtMEDIAL FORMo",
     "NYEH ISOLATED FORMtFINAL FORMtINITIAL FORMtMEDIAL FORMoTCHEH ISOLATED FORMuFINAL FORMuINIT",
     "IAL FORMuMEDIAL FORMtEH ISOLATED FORMwFINAL FORMwINITIAL FORMwMEDIAL FORMoDDAHAL ISOLATED ",
     "FORMvFINAL FORMpAHAL ISOLATED FORMuFINAL FORM"]),
    (0xFB86,
    ["aARABIC LETTER DUL ISOLATED FORMsFINAL FORMpDAL ISOLATED FORMtFINAL FORMoJEH ISOLATED FORM",
     "sFINAL FORMoRREH ISOLATED FORMtFINAL FORMoKEHEH ISOLATED FORMuFINAL FORMuINITIAL FORMuMEDI",
     "AL FORMoGAF ISOLATED FORMsFINAL FORMsINITIAL FORMsMEDIAL FORMpUEH ISOLATED FORMtFINAL FORM",
     "tINITIAL FORMtMEDIAL FORMoNGOEH ISOLATED FORMuFINAL FORMuINITIAL FORMuMEDIAL FORMpOON GHUN",
     "NA ISOLATED FORMz FINAL FORMoRNOON ISOLATED FORMuFINAL FORMuINITIAL FORMuMEDIAL FORMoHEH W",
     "ITH YEH ABOVE ISOLATED FORMzH ABOVE FINAL FORMsGOAL ISOLATED FORMxFINAL FORMxINITIAL FORMx",
     "MEDIAL FORMsDOACHASHMEE ISOLATED FORMzHMEE FINAL FORMzHMEE INITIAL FORMzHMEE MEDIAL FORMoY",
     "EH BARREE ISOLATED FORMzFINAL FORMzWITH HAMZA ABOVE ISOLATED FORMzWITH HAMZA ABOVE FINAL F",
     "ORMhSYMBOL DOT ABOVEsBELOWoTWO DOTS ABOVExBELOWpHREE DOTS ABOVEzBELOWzPOINTING DOWNWARDS A",
     "BOVEzPOINTING DOWNWARDS BELOWoFOUR DOTS ABOVEyBELOWoDOUBLE VERTICAL BAR BELOWoTWO DOTS VER",
     "TICALLY ABOVEzRTICALLY BELOWoRINGoSMALL TAH ABOVEyBELOWoWASLA ABOVE"]),
    (0xFBD3,
    ["aARABIC LETTER NG ISOLATED FORMrFINAL FORMrINITIAL FORMrMEDIAL FORMoU ISOLATED FORMqFINAL ",
     "FORMoOE ISOLATED FORMrFINAL FORMoYU ISOLATED FORMrFINAL FORMoU WITH HAMZA ABOVE ISOLATED F",
     "ORMoVE ISOLATED FORMrFINAL FORMoKIRGHIZ OE ISOLATED FORMzFINAL FORMwYU ISOLATED FORMzFINAL",
     " FORMoE ISOLATED FORMqFINAL FORMqINITIAL FORMqMEDIAL FORMoUIGHUR KAZAKH KIRGHIZ ALEF MAKSU",
     "RA INITIAL FORMzKH KIRGHIZ ALEF MAKSURA MEDIAL FORMiIGATURE YEH WITH HAMZA ABOVE WITH ALEF",
     " ISOLATED FORMzHAMZA ABOVE WITH ALEF FINAL FORMzHAMZA ABOVE WITH AE ISOLATED FORMzHAMZA AB",
     "OVE WITH AE FINAL FORMzHAMZA ABOVE WITH WAW ISOLATED FORMzHAMZA ABOVE WITH WAW FINAL FORMz",
     "HAMZA ABOVE WITH U ISOLATED FORMzHAMZA ABOVE WITH U FINAL FORMzHAMZA ABOVE WITH OE ISOLATE",
     "D FORMzHAMZA ABOVE WITH OE FINAL FORMzHAMZA ABOVE WITH YU ISOLATED FORMzHAMZA ABOVE WITH Y",
     "U FINAL FORMzHAMZA ABOVE WITH E ISOLATED FORMzHAMZA ABOVE WITH E FINAL FORMzHAMZA ABOVE WI",
     "TH E INITIAL FORMqUIGHUR KIRGHIZ YEH WITH HAMZA ABOVE WITH ALEF MAKSURA ISOLATED FORMzRGHI",
     "Z YEH WITH HAMZA ABOVE WITH ALEF MAKSURA FINAL FORMzRGHIZ YEH WITH HAMZA ABOVE WITH ALEF M",
     "AKSURA INITIAL FORMiETTER FARSI YEH ISOLATED FORMyFINAL FORMyINITIAL FORMyMEDIAL FORMiIGAT",
     "URE YEH WITH HAMZA ABOVE WITH JEEM ISOLATED FORMzHAMZA ABOVE WITH HAH ISOLATED FORMzHAMZA ",
     "ABOVE WITH MEEM ISOLATED FORMzHAMZA ABOVE WITH ALEF MAKSURA ISOLATED FORMzHAMZA ABOVE WITH",
     " YEH ISOLATED FORMqBEH WITH JEEM ISOLATED FORMzHAH ISOLATED FORMzKHAH ISOLATED FORMzMEEM I",
     "SOLATED FORMzALEF MAKSURA ISOLATED FORMzYEH ISOLATED FORMqTEH WITH JEEM ISOLATED FORMzHAH ",
     "ISOLATED FORMzKHAH ISOLATED FORMzMEEM ISOLATED FORMzALEF MAKSURA ISOLATED FORMzYEH ISOLATE",
     "D FORMrHEH WITH JEEM ISOLATED FORMz MEEM ISOLATED FORM"]),
    (0xFC13,
    ["aARABIC LIGATURE THEH WITH ALEF MAKSURA ISOLATED FORMz YEH ISOLATED FORMqJEEM WITH HAH ISO",
     "LATED FORMz MEEM ISOLATED FORMqHAH WITH JEEM ISOLATED FORMzMEEM ISOLATED FORMqKHAH WITH JE",
     "EM ISOLATED FORMz HAH ISOLATED FORMz MEEM ISOLATED FORMqSEEN WITH JEEM ISOLATED FORMz HAH ",
     "ISOLATED FORMz KHAH ISOLATED FORMz MEEM ISOLATED FORMrAD WITH HAH ISOLATED FORMzMEEM ISOLA",
     "TED FORMqDAD WITH JEEM ISOLATED FORMzHAH ISOLATED FORMzKHAH ISOLATED FORMzMEEM ISOLATED FO",
     "RMqTAH WITH HAH ISOLATED FORMzMEEM ISOLATED FORMqZAH WITH MEEM ISOLATED FORMqAIN WITH JEEM",
     " ISOLATED FORMzMEEM ISOLATED FORMqGHAIN WITH JEEM ISOLATED FORMzH MEEM ISOLATED FORMqFEH W",
     "ITH JEEM ISOLATED FORMzHAH ISOLATED FORMzKHAH ISOLATED FORMzMEEM ISOLATED FORMzALEF MAKSUR",
     "A ISOLATED FORMzYEH ISOLATED FORMqQAF WITH HAH ISOLATED FORMzMEEM ISOLATED FORMzALEF MAKSU",
     "RA ISOLATED FORMzYEH ISOLATED FORMqKAF WITH ALEF ISOLATED FORMzJEEM ISOLATED FORMzHAH ISOL",
     "ATED FORMzKHAH ISOLATED FORMzLAM ISOLATED FORMzMEEM ISOLATED FORMzALEF MAKSURA ISOLATED FO",
     "RMzYEH ISOLATED FORMqLAM WITH JEEM ISOLATED FORMzHAH ISOLATED FORMzKHAH ISOLATED FORMzMEEM",
     " ISOLATED FORMzALEF MAKSURA ISOLATED FORMzYEH ISOLATED FORMqMEEM WITH JEEM ISOLATED FORMz ",
     "HAH ISOLATED FORMz KHAH ISOLATED FORMz MEEM ISOLATED FORMz ALEF MAKSURA ISOLATED FORMz YEH",
     " ISOLATED FORMqNOON WITH JEEM ISOLATED FORMz HAH ISOLATED FORMz KHAH ISOLATED FORMz MEEM I",
     "SOLATED FORMz ALEF MAKSURA ISOLATED FORMz YEH ISOLATED FORMqHEH WITH JEEM ISOLATED FORMzME",
     "EM ISOLATED FORM"]),
    (0xFC53,
    ["aARABIC LIGATURE HEH WITH ALEF MAKSURA ISOLATED FORMzYEH ISOLATED FORMqYEH WITH JEEM ISOLA",
     "TED FORMzHAH ISOLATED FORMzKHAH ISOLATED FORMzMEEM ISOLATED FORMzALEF MAKSURA ISOLATED FOR",
     "MzYEH ISOLATED FORMqTHAL WITH SUPERSCRIPT ALEF ISOLATED FORMqREH WITH SUPERSCRIPT ALEF ISO",
     "LATED FORMqALEF MAKSURA WITH SUPERSCRIPT ALEF ISOLATED FORMqSHADDA WITH DAMMATAN ISOLATED ",
     "FORMzTH KASRATAN ISOLATED FORMzTH FATHA ISOLATED FORMzTH DAMMA ISOLATED FORMzTH KASRA ISOL",
     "ATED FORMzTH SUPERSCRIPT ALEF ISOLATED FORMqYEH WITH HAMZA ABOVE WITH REH FINAL FORMzHAMZA",
     " ABOVE WITH ZAIN FINAL FORMzHAMZA ABOVE WITH MEEM FINAL FORMzHAMZA ABOVE WITH NOON FINAL F",
     "ORMzHAMZA ABOVE WITH ALEF MAKSURA FINAL FORMzHAMZA ABOVE WITH YEH FINAL FORMqBEH WITH REH ",
     "FINAL FORMzZAIN FINAL FORMzMEEM FINAL FORMzNOON FINAL FORMzALEF MAKSURA FINAL FORMzYEH FIN",
     "AL FORMqTEH WITH REH FINAL FORMzZAIN FINAL FORMzMEEM FINAL FORMzNOON FINAL FORMzALEF MAKSU",
     "RA FINAL FORMzYEH FINAL FORMrHEH WITH REH FINAL FORMz ZAIN FINAL FORMz MEEM FINAL FORMz NO",
     "ON FINAL FORMz ALEF MAKSURA FINAL FORMz YEH FINAL FORMqFEH WITH ALEF MAKSURA FINAL FORMzYE",
     "H FINAL FORMqQAF WITH ALEF MAKSURA FINAL FORMzYEH FINAL FORMqKAF WITH ALEF FINAL FORMzLAM ",
     "FINAL FORMzMEEM FINAL FORMzALEF MAKSURA FINAL FORMzYEH FINAL FORMqLAM WITH MEEM FINAL FORM",
     "zALEF MAKSURA FINAL FORMzYEH FINAL FORMqMEEM WITH ALEF FINAL FORMz MEEM FINAL FORMqNOON WI",
     "TH REH FINAL FORMz ZAIN FINAL FORMz MEEM FINAL FORMz NOON FINAL FORMz ALEF MAKSURA FINAL F",
     "ORMz YEH FINAL FORMqALEF MAKSURA WITH SUPERSCRIPT ALEF FINAL FORMqYEH WITH REH FINAL FORMz",
     "ZAIN FINAL FORM"]),
    (0xFC93,
    ["aARABIC LIGATURE YEH WITH MEEM FINAL FORMzNOON FINAL FORMzALEF MAKSURA FINAL FORMzYEH FINA",
     "L FORMzHAMZA ABOVE WITH JEEM INITIAL FORMzHAMZA ABOVE WITH HAH INITIAL FORMzHAMZA ABOVE WI",
     "TH KHAH INITIAL FORMzHAMZA ABOVE WITH MEEM INITIAL FORMzHAMZA ABOVE WITH HEH INITIAL FORMq",
     "BEH WITH JEEM INITIAL FORMzHAH INITIAL FORMzKHAH INITIAL FORMzMEEM INITIAL FORMzHEH INITIA",
     "L FORMqTEH WITH JEEM INITIAL FORMzHAH INITIAL FORMzKHAH INITIAL FORMzMEEM INITIAL FORMzHEH",
     " INITIAL FORMrHEH WITH MEEM INITIAL FORMqJEEM WITH HAH INITIAL FORMz MEEM INITIAL FORMqHAH",
     " WITH JEEM INITIAL FORMzMEEM INITIAL FORMqKHAH WITH JEEM INITIAL FORMz MEEM INITIAL FORMqS",
     "EEN WITH JEEM INITIAL FORMz HAH INITIAL FORMz KHAH INITIAL FORMz MEEM INITIAL FORMrAD WITH",
     " HAH INITIAL FORMzKHAH INITIAL FORMzMEEM INITIAL FORMqDAD WITH JEEM INITIAL FORMzHAH INITI",
     "AL FORMzKHAH INITIAL FORMzMEEM INITIAL FORMqTAH WITH HAH INITIAL FORMqZAH WITH MEEM INITIA",
     "L FORMqAIN WITH JEEM INITIAL FORMzMEEM INITIAL FORMqGHAIN WITH JEEM INITIAL FORMzH MEEM IN",
     "ITIAL FORMqFEH WITH JEEM INITIAL FORMzHAH INITIAL FORMzKHAH INITIAL FORMzMEEM INITIAL FORM",
     "qQAF WITH HAH INITIAL FORMzMEEM INITIAL FORMqKAF WITH JEEM INITIAL FORMzHAH INITIAL FORMzK",
     "HAH INITIAL FORMzLAM INITIAL FORMzMEEM INITIAL FORMqLAM WITH JEEM INITIAL FORMzHAH INITIAL",
     " FORMzKHAH INITIAL FORMzMEEM INITIAL FORMzHEH INITIAL FORMqMEEM WITH JEEM INITIAL FORMz HA",
     "H INITIAL FORMz KHAH INITIAL FORMz MEEM INITIAL FORMqNOON WITH JEEM INITIAL FORM"]),
    (0xFCD3,
    ["aARABIC LIGATURE NOON WITH HAH INITIAL FORMz KHAH INITIAL FORMz MEEM INITIAL FORMz HEH INI",
     "TIAL FORMqHEH WITH JEEM INITIAL FORMzMEEM INITIAL FORMzSUPERSCRIPT ALEF INITIAL FORMqYEH W",
     "ITH JEEM INITIAL FORMzHAH INITIAL FORMzKHAH INITIAL FORMzMEEM INITIAL FORMzHEH INITIAL FOR",
     "MzHAMZA ABOVE WITH MEEM MEDIAL FORMzHAMZA ABOVE WITH HEH MEDIAL FORMqBEH WITH MEEM MEDIAL ",
     "FORMzHEH MEDIAL FORMqTEH WITH MEEM MEDIAL FORMzHEH MEDIAL FORMrHEH WITH MEEM MEDIAL FORMz ",
     "HEH MEDIAL FORMqSEEN WITH MEEM MEDIAL FORMz HEH MEDIAL FORMrHEEN WITH MEEM MEDIAL FORMzH H",
     "EH MEDIAL FORMqKAF WITH LAM MEDIAL FORMzMEEM MEDIAL FORMqLAM WITH MEEM MEDIAL FORMqNOON WI",
     "TH MEEM MEDIAL FORMz HEH MEDIAL FORMqYEH WITH MEEM MEDIAL FORMzHEH MEDIAL FORMqSHADDA WITH",
     " FATHA MEDIAL FORMzTH DAMMA MEDIAL FORMzTH KASRA MEDIAL FORMqTAH WITH ALEF MAKSURA ISOLATE",
     "D FORMzYEH ISOLATED FORMqAIN WITH ALEF MAKSURA ISOLATED FORMzYEH ISOLATED FORMqGHAIN WITH ",
     "ALEF MAKSURA ISOLATED FORMzH YEH ISOLATED FORMqSEEN WITH ALEF MAKSURA ISOLATED FORMz YEH I",
     "SOLATED FORMrHEEN WITH ALEF MAKSURA ISOLATED FORMzH YEH ISOLATED FORMqHAH WITH ALEF MAKSUR",
     "A ISOLATED FORMzYEH ISOLATED FORMqJEEM WITH ALEF MAKSURA ISOLATED FORMz YEH ISOLATED FORMq",
     "KHAH WITH ALEF MAKSURA ISOLATED FORMz YEH ISOLATED FORMqSAD WITH ALEF MAKSURA ISOLATED FOR",
     "MzYEH ISOLATED FORMqDAD WITH ALEF MAKSURA ISOLATED FORMzYEH ISOLATED FORMqSHEEN WITH JEEM ",
     "ISOLATED FORMzH HAH ISOLATED FORMzH KHAH ISOLATED FORMzH MEEM ISOLATED FORMzH REH ISOLATED",
     " FORMrEEN WITH REH ISOLATED FORMrAD WITH REH ISOLATED FORMqDAD WITH REH ISOLATED FORMqTAH ",
     "WITH ALEF MAKSURA FINAL FORMzYEH FINAL FORM"]),
    (0xFD13,
    ["aARABIC LIGATURE AIN WITH ALEF MAKSURA FINAL FORMzYEH FINAL FORMqGHAIN WITH ALEF MAKSURA F",
     "INAL FORMzH YEH FINAL FORMqSEEN WITH ALEF MAKSURA FINAL FORMz YEH FINAL FORMrHEEN WITH ALE",
     "F MAKSURA FINAL FORMzH YEH FINAL FORMqHAH WITH ALEF MAKSURA FINAL FORMzYEH FINAL FORMqJEEM",
     " WITH ALEF MAKSURA FINAL FORMz YEH FINAL FORMqKHAH WITH ALEF MAKSURA FINAL FORMz YEH FINAL",
     " FORMqSAD WITH ALEF MAKSURA FINAL FORMzYEH FINAL FORMqDAD WITH ALEF MAKSURA FINAL FORMzYEH",
     " FINAL FORMqSHEEN WITH JEEM FINAL FORMzH HAH FINAL FORMzH KHAH FINAL FORMzH MEEM FINAL FOR",
     "MzH REH FINAL FORMrEEN WITH REH FINAL FORMrAD WITH REH FINAL FORMqDAD WITH REH FINAL FORMq",
     "SHEEN WITH JEEM INITIAL FORMzH HAH INITIAL FORMzH KHAH INITIAL FORMzH MEEM INITIAL FORMrEE",
     "N WITH HEH INITIAL FORMrHEEN WITH HEH INITIAL FORMqTAH WITH MEEM INITIAL FORMqSEEN WITH JE",
     "EM MEDIAL FORMz HAH MEDIAL FORMz KHAH MEDIAL FORMrHEEN WITH JEEM MEDIAL FORMzH HAH MEDIAL ",
     "FORMzH KHAH MEDIAL FORMqTAH WITH MEEM MEDIAL FORMqZAH WITH MEEM MEDIAL FORMqALEF WITH FATH",
     "ATAN FINAL FORMz FATHATAN ISOLATED FORMaORNATE LEFT PARENTHESIShRIGHT PARENTHESISaARABIC L",
     "IGATURE RAHIMAHU ALLAAHsDI ALLAAHU ANHzAHU ANHAAzAHU ANHUMzAHU ANHUMAAzAHU ANHUNNAqSALLALL",
     "AAHU ALAYHI WA-AALIHqALAYHI AS-SALAAMwM AS-SALAAMxAA AS-SALAAMw AS-SALAATU WAS-SALAAMqQUDD",
     "ISA SIRRAHqSALLALLAHU ALAYHI WAAALIHEE WA-SALLAMqALAYHAA AS-SALAAMqTABAARAKA WA-TAAALAAqRA",
     "HIMAHUM ALLAAHqTEH WITH JEEM WITH MEEM INITIAL FORMzHAH WITH JEEM FINAL FORMzHAH WITH JEEM",
     " INITIAL FORM"]),
    (0xFD53,
    ["aARABIC LIGATURE TEH WITH HAH WITH MEEM INITIAL FORMzKHAH WITH MEEM INITIAL FORMzMEEM WITH",
     " JEEM INITIAL FORMzMEEM WITH HAH INITIAL FORMzMEEM WITH KHAH INITIAL FORMqJEEM WITH MEEM W",
     "ITH HAH FINAL FORMz MEEM WITH HAH INITIAL FORMqHAH WITH MEEM WITH YEH FINAL FORMzMEEM WITH",
     " ALEF MAKSURA FINAL FORMqSEEN WITH HAH WITH JEEM INITIAL FORMz JEEM WITH HAH INITIAL FORMz",
     " JEEM WITH ALEF MAKSURA FINAL FORMz MEEM WITH HAH FINAL FORMz MEEM WITH HAH INITIAL FORMz ",
     "MEEM WITH JEEM INITIAL FORMz MEEM WITH MEEM FINAL FORMz MEEM WITH MEEM INITIAL FORMrAD WIT",
     "H HAH WITH HAH FINAL FORMzHAH WITH HAH INITIAL FORMzMEEM WITH MEEM FINAL FORMrHEEN WITH HA",
     "H WITH MEEM FINAL FORMzH HAH WITH MEEM INITIAL FORMzH JEEM WITH YEH FINAL FORMzH MEEM WITH",
     " KHAH FINAL FORMzH MEEM WITH KHAH INITIAL FORMzH MEEM WITH MEEM FINAL FORMzH MEEM WITH MEE",
     "M INITIAL FORMqDAD WITH HAH WITH ALEF MAKSURA FINAL FORMzKHAH WITH MEEM FINAL FORMzKHAH WI",
     "TH MEEM INITIAL FORMqTAH WITH MEEM WITH HAH FINAL FORMzMEEM WITH HAH INITIAL FORMzMEEM WIT",
     "H MEEM INITIAL FORMzMEEM WITH YEH FINAL FORMqAIN WITH JEEM WITH MEEM FINAL FORMzMEEM WITH ",
     "MEEM FINAL FORMzMEEM WITH MEEM INITIAL FORMzMEEM WITH ALEF MAKSURA FINAL FORMqGHAIN WITH M",
     "EEM WITH MEEM FINAL FORMzH MEEM WITH YEH FINAL FORMzH MEEM WITH ALEF MAKSURA FINAL FORMqFE",
     "H WITH KHAH WITH MEEM FINAL FORMzKHAH WITH MEEM INITIAL FORMqQAF WITH MEEM WITH HAH FINAL ",
     "FORMzMEEM WITH MEEM FINAL FORMqLAM WITH HAH WITH MEEM FINAL FORMzHAH WITH YEH FINAL FORMzH",
     "AH WITH ALEF MAKSURA FINAL FORMzJEEM WITH JEEM INITIAL FORMzJEEM WITH JEEM FINAL FORMzKHAH",
     " WITH MEEM FINAL FORMzKHAH WITH MEEM INITIAL FORMzMEEM WITH HAH FINAL FORMzMEEM WITH HAH I",
     "NITIAL FORMqMEEM WITH HAH WITH JEEM INITIAL FORMz HAH WITH MEEM INITIAL FORMz HAH WITH YEH",
     " FINAL FORMz JEEM WITH HAH INITIAL FORMz JEEM WITH MEEM INITIAL FORMz KHAH WITH JEEM INITI",
     "AL FORMz KHAH WITH MEEM INITIAL FORM"]),
    (0xFD92,
    ["aARABIC LIGATURE MEEM WITH JEEM WITH KHAH INITIAL FORMqHEH WITH MEEM WITH JEEM INITIAL FOR",
     "MzMEEM WITH MEEM INITIAL FORMqNOON WITH HAH WITH MEEM INITIAL FORMz HAH WITH ALEF MAKSURA ",
     "FINAL FORMz JEEM WITH MEEM FINAL FORMz JEEM WITH MEEM INITIAL FORMz JEEM WITH ALEF MAKSURA",
     " FINAL FORMz MEEM WITH YEH FINAL FORMz MEEM WITH ALEF MAKSURA FINAL FORMqYEH WITH MEEM WIT",
     "H MEEM FINAL FORMzMEEM WITH MEEM INITIAL FORMqBEH WITH KHAH WITH YEH FINAL FORMqTEH WITH J",
     "EEM WITH YEH FINAL FORMzJEEM WITH ALEF MAKSURA FINAL FORMzKHAH WITH YEH FINAL FORMzKHAH WI",
     "TH ALEF MAKSURA FINAL FORMzMEEM WITH YEH FINAL FORMzMEEM WITH ALEF MAKSURA FINAL FORMqJEEM",
     " WITH MEEM WITH YEH FINAL FORMz HAH WITH ALEF MAKSURA FINAL FORMz MEEM WITH ALEF MAKSURA F",
     "INAL FORMqSEEN WITH KHAH WITH ALEF MAKSURA FINAL FORMrAD WITH HAH WITH YEH FINAL FORMrHEEN",
     " WITH HAH WITH YEH FINAL FORMqDAD WITH HAH WITH YEH FINAL FORMqLAM WITH JEEM WITH YEH FINA",
     "L FORMzMEEM WITH YEH FINAL FORMqYEH WITH HAH WITH YEH FINAL FORMzJEEM WITH YEH FINAL FORMz",
     "MEEM WITH YEH FINAL FORMqMEEM WITH MEEM WITH YEH FINAL FORMqQAF WITH MEEM WITH YEH FINAL F",
     "ORMqNOON WITH HAH WITH YEH FINAL FORMqQAF WITH MEEM WITH HAH INITIAL FORMqLAM WITH HAH WIT",
     "H MEEM INITIAL FORMqAIN WITH MEEM WITH YEH FINAL FORMqKAF WITH MEEM WITH YEH FINAL FORMqNO",
     "ON WITH JEEM WITH HAH INITIAL FORMqMEEM WITH KHAH WITH YEH FINAL FORMqLAM WITH JEEM WITH M",
     "EEM INITIAL FORMqKAF WITH MEEM WITH MEEM FINAL FORMqLAM WITH JEEM WITH MEEM FINAL FORMqNOO",
     "N WITH JEEM WITH HAH FINAL FORMqJEEM WITH HAH WITH YEH FINAL FORMqHAH WITH JEEM WITH YEH F",
     "INAL FORMqMEEM WITH JEEM WITH YEH FINAL FORMqFEH WITH MEEM WITH YEH FINAL FORMqBEH WITH HA",
     "H WITH YEH FINAL FORMqKAF WITH MEEM WITH MEEM INITIAL FORMqAIN WITH JEEM WITH MEEM INITIAL",
     " FORMqSAD WITH MEEM WITH MEEM INITIAL FORMrEEN WITH KHAH WITH YEH FINAL FORMqNOON WITH JEE",
     "M WITH YEH FINAL FORM"]),
    (0xFDCF,
    ["aARABIC LIGATURE SALAAMUHU ALAYNAA"]),
    (0xFDF0,
    ["aARABIC LIGATURE SALLA USED AS KORANIC STOP SIGN ISOLATED FORMqQALA USED AS KORANIC STOP S",
     "IGN ISOLATED FORMqALLAH ISOLATED FORMrKBAR ISOLATED FORMqMOHAMMAD ISOLATED FORMqSALAM ISOL",
     "ATED FORMqRASOUL ISOLATED FORMqALAYHE ISOLATED FORMqWASALLAM ISOLATED FORMqSALLA ISOLATED ",
     "FORMvLLAHOU ALAYHE WASALLAMqJALLAJALALOUHOUaRIAL SIGNaARABIC LIGATURE BISMILLAH AR-RAHMAN ",
     "AR-RAHEEMqSUBHAANAHU WA TAAALAAqAZZA WA JALLaVARIATION SELECTOR-1t2t3t4t5t6t7t8t9t10u1u2u3",
     "u4u5u6aPRESENTATION FORM FOR VERTICAL COMMAzTICAL IDEOGRAPHIC COMMAzTICAL IDEOGRAPHIC FULL",
     " STOPzTICAL COLONzTICAL SEMICOLONzTICAL EXCLAMATION MARKzTICAL QUESTION MARKzTICAL LEFT WH",
     "ITE LENTICULAR BRACKETzTICAL RIGHT WHITE LENTICULAR BRAKCETzTICAL HORIZONTAL ELLIPSIS"]),
    (0xFE20,
    ["aCOMBINING LIGATURE LEFT HALFtRIGHT HALFkDOUBLE TILDE LEFT HALFxRIGHT HALFkMACRON LEFT HAL",
     "FrRIGHT HALFkCONJOINING MACRONkLIGATURE LEFT HALF BELOWtRIGHT HALF BELOWkTILDE LEFT HALF B",
     "ELOWqRIGHT HALF BELOWkMACRON LEFT HALF BELOWrRIGHT HALF BELOWkCONJOINING MACRON BELOWlYRIL",
     "LIC TITLO LEFT HALFzRIGHT HALFaPRESENTATION FORM FOR VERTICAL TWO DOT LEADERzTICAL EM DASH",
     "zTICAL EN DASHzTICAL LOW LINEzTICAL WAVY LOW LINEzTICAL LEFT PARENTHESISzTICAL RIGHT PAREN",
     "THESISzTICAL LEFT CURLY BRACKETzTICAL RIGHT CURLY BRACKETzTICAL LEFT TORTOISE SHELL BRACKE",
     "TzTICAL RIGHT TORTOISE SHELL BRACKETzTICAL LEFT BLACK LENTICULAR BRACKETzTICAL RIGHT BLACK",
     " LENTICULAR BRACKETzTICAL LEFT DOUBLE ANGLE BRACKETzTICAL RIGHT DOUBLE ANGLE BRACKETzTICAL",
     " LEFT ANGLE BRACKETzTICAL RIGHT ANGLE BRACKETzTICAL LEFT CORNER BRACKETzTICAL RIGHT CORNER",
     " BRACKETzTICAL LEFT WHITE CORNER BRACKETzTICAL RIGHT WHITE CORNER BRACKETaSESAME DOTaWHITE",
     " SESAME DOTaPRESENTATION FORM FOR VERTICAL LEFT SQUARE BRACKETzTICAL RIGHT SQUARE BRACKETa",
     "DASHED OVERLINEaCENTRELINE OVERLINEaWAVY OVERLINEaDOUBLE WAVY OVERLINEbASHED LOW LINEaCENT",
     "RELINE LOW LINEaWAVY LOW LINEaSMALL COMMAgIDEOGRAPHIC COMMAgFULL STOP"]),
    (0xFE54,
    ["aSMALL SEMICOLONgCOLONgQUESTION MARKgEXCLAMATION MARKhM DASHgLEFT PARENTHESISgRIGHT PARENT",
     "HESISgLEFT CURLY BRACKETgRIGHT CURLY BRACKETgLEFT TORTOISE SHELL BRACKETgRIGHT TORTOISE SH",
     "ELL BRACKETgNUMBER SIGNgAMPERSANDhSTERISKgPLUS SIGNgHYPHEN-MINUSgLESS-THAN SIGNgGREATER-TH",
     "AN SIGNgEQUALS SIGN"]),
    (0xFE68,
    ["aSMALL REVERSE SOLIDUSgDOLLAR SIGNgPERCENT SIGNgCOMMERCIAL AT"]),
    (0xFE70,
    ["aARABIC FATHATAN ISOLATED FORMhTATWEEL WITH FATHATAN ABOVEhDAMMATAN ISOLATED FORMhTAIL FRA",
     "GMENThKASRATAN ISOLATED FORM"]),
    (0xFE76,
    ["aARABIC FATHA ISOLATED FORMnMEDIAL FORMhDAMMA ISOLATED FORMnMEDIAL FORMhKASRA ISOLATED FOR",
     "MnMEDIAL FORMhSHADDA ISOLATED FORMoMEDIAL FORMiUKUN ISOLATED FORMnMEDIAL FORMhLETTER HAMZA",
     " ISOLATED FORMoALEF WITH MADDA ABOVE ISOLATED FORMzADDA ABOVE FINAL FORMyHAMZA ABOVE ISOLA",
     "TED FORMzAMZA ABOVE FINAL FORMoWAW WITH HAMZA ABOVE ISOLATED FORMzMZA ABOVE FINAL FORMoALE",
     "F WITH HAMZA BELOW ISOLATED FORMzAMZA BELOW FINAL FORMoYEH WITH HAMZA ABOVE ISOLATED FORMz",
     "MZA ABOVE FINAL FORMzMZA ABOVE INITIAL FORMzMZA ABOVE MEDIAL FORMoALEF ISOLATED FORMtFINAL",
     " FORMoBEH ISOLATED FORMsFINAL FORMsINITIAL FORMsMEDIAL FORMoTEH MARBUTA ISOLATED FORMz FIN",
     "AL FORMsISOLATED FORMsFINAL FORMsINITIAL FORMsMEDIAL FORMpHEH ISOLATED FORMtFINAL FORMtINI",
     "TIAL FORMtMEDIAL FORMoJEEM ISOLATED FORMtFINAL FORMtINITIAL FORMtMEDIAL FORMoHAH ISOLATED ",
     "FORMsFINAL FORMsINITIAL FORMsMEDIAL FORMoKHAH ISOLATED FORMtFINAL FORMtINITIAL FORMtMEDIAL",
     " FORMoDAL ISOLATED FORMsFINAL FORMoTHAL ISOLATED FORMtFINAL FORMoREH ISOLATED FORMsFINAL F",
     "ORMoZAIN ISOLATED FORMtFINAL FORMoSEEN ISOLATED FORMtFINAL FORMtINITIAL FORMtMEDIAL FORMpH",
     "EEN ISOLATED FORM"]),
    (0xFEB6,
    ["aARABIC LETTER SHEEN FINAL FORMuINITIAL FORMuMEDIAL FORMpAD ISOLATED FORMsFINAL FORMsINITI",
     "AL FORMsMEDIAL FORMoDAD ISOLATED FORMsFINAL FORMsINITIAL FORMsMEDIAL FORMoTAH ISOLATED FOR",
     "MsFINAL FORMsINITIAL FORMsMEDIAL FORMoZAH ISOLATED FORMsFINAL FORMsINITIAL FORMsMEDIAL FOR",
     "MoAIN ISOLATED FORMsFINAL FORMsINITIAL FORMsMEDIAL FORMoGHAIN ISOLATED FORMuFINAL FORMuINI",
     "TIAL FORMuMEDIAL FORMoFEH ISOLATED FORMsFINAL FORMsINITIAL FORMsMEDIAL FORMoQAF ISOLATED F",
     "ORMsFINAL FORMsINITIAL FORMsMEDIAL FORMoKAF ISOLATED FORMsFINAL FORMsINITIAL FORMsMEDIAL F",
     "ORMoLAM ISOLATED FORMsFINAL FORMsINITIAL FORMsMEDIAL FORMoMEEM ISOLATED FORMtFINAL FORMtIN",
     "ITIAL FORMtMEDIAL FORMoNOON ISOLATED FORMtFINAL FORMtINITIAL FORMtMEDIAL FORMoHEH ISOLATED",
     " FORMsFINAL FORMsINITIAL FORMsMEDIAL FORMoWAW ISOLATED FORMsFINAL FORMoALEF MAKSURA ISOLAT",
     "ED FORMzA FINAL FORMoYEH ISOLATED FORMsFINAL FORMsINITIAL FORMsMEDIAL FORMiIGATURE LAM WIT",
     "H ALEF WITH MADDA ABOVE ISOLATED FORM"]),
    (0xFEF6,
    ["aARABIC LIGATURE LAM WITH ALEF WITH MADDA ABOVE FINAL FORMzALEF WITH HAMZA ABOVE ISOLATED ",
     "FORMzALEF WITH HAMZA ABOVE FINAL FORMzALEF WITH HAMZA BELOW ISOLATED FORMzALEF WITH HAMZA ",
     "BELOW FINAL FORMzALEF ISOLATED FORMzALEF FINAL FORM"]),
    (0xFEFF,
    ["aZERO WIDTH NO-BREAK SPACE"]),
    (0xFF01,
    ["aFULLWIDTH EXCLAMATION MARKkQUOTATION MARKkNUMBER SIGNkDOLLAR SIGNkPERCENT SIGNkAMPERSANDl",
     "POSTROPHEkLEFT PARENTHESISkRIGHT PARENTHESISkASTERISKkPLUS SIGNkCOMMAkHYPHEN-MINUSkFULL ST",
     "OPkSOLIDUSkDIGIT ZEROqONEqTWOrHREEqFOURrIVEqSIXrEVENqEIGHTqNINEkCOLONkSEMICOLONkLESS-THAN ",
     "SIGNkEQUALS SIGNkGREATER-THAN SIGNkQUESTION MARKkCOMMERCIAL ATkLATIN CAPITAL LETTER AzETTE",
     "R BzETTER CzETTER DzETTER EzETTER FzETTER GzETTER HzETTER IzETTER JzETTER KzETTER LzETTER ",
     "MzETTER NzETTER OzETTER PzETTER QzETTER RzETTER SzETTER TzETTER UzETTER VzETTER WzETTER Xz",
     "ETTER YzETTER ZlEFT SQUARE BRACKETkREVERSE SOLIDUSlIGHT SQUARE BRACKETkCIRCUMFLEX ACCENTkL",
     "OW LINEkGRAVE ACCENT"]),
    (0xFF41,
    ["aFULLWIDTH LATIN SMALL LETTER AzTER BzTER CzTER DzTER EzTER FzTER GzTER HzTER IzTER JzTER ",
     "KzTER LzTER MzTER NzTER OzTER PzTER QzTER RzTER SzTER TzTER UzTER VzTER WzTER XzTER YzTER ",
     "ZlEFT CURLY BRACKETkVERTICAL LINEkRIGHT CURLY BRACKETkTILDEkLEFT WHITE PARENTHESISkRIGHT W",
     "HITE PARENTHESISaHALFWIDTH IDEOGRAPHIC FULL STOPkLEFT CORNER BRACKETkRIGHT CORNER BRACKETk",
     "IDEOGRAPHIC COMMAkKATAKANA MIDDLE DOTtLETTER WOz SMALL Az SMALL Iz SMALL Uz SMALL Ez SMALL",
     " Oz SMALL YAz SMALL YUz SMALL YOz SMALL TUs-HIRAGANA PROLONGED SOUND MARKs LETTER Az Iz Uz",
     " Ez Oz KAz KIz KUz KEz KOz SAz SIz SUz SEz SOz TA"]),
    (0xFF81,
    ["aHALFWIDTH KATAKANA LETTER TIz TUz TEz TOz NAz NIz NUz NEz NOz HAz HIz HUz HEz HOz MAz MIz",
     " MUz MEz MOz YAz YUz YOz RAz RIz RUz REz ROz WAz NtVOICED SOUND MARKtSEMI-VOICED SOUND MAR",
     "KkHANGUL FILLERrLETTER KIYEOKySSANGKIYEOKyKIYEOK-SIOSyNIEUNzIEUN-CIEUCzIEUN-HIEUHyTIKEUTyS",
     "SANGTIKEUTyRIEULzIEUL-KIYEOKzIEUL-MIEUMzIEUL-PIEUPzIEUL-SIOSzIEUL-THIEUTHzIEUL-PHIEUPHzIEU",
     "L-HIEUHyMIEUMyPIEUPySSANGPIEUPyPIEUP-SIOSySIOSzSANGSIOSyIEUNGyCIEUCySSANGCIEUCyCHIEUCHyKHI",
     "EUKHyTHIEUTHyPHIEUPHyHIEUH"]),
    (0xFFC2,
    ["aHALFWIDTH HANGUL LETTER AzEyYAzAEyEOz"]),
    (0xFFCA,
    ["aHALFWIDTH HANGUL LETTER YEOzEyOyWAzAEyOE"]),
    (0xFFD2,
    ["aHALFWIDTH HANGUL LETTER YOyUyWEOzEzIyYU"]),
    (0xFFDA,
    ["aHALFWIDTH HANGUL LETTER EUyYIyI"]),
    (0xFFE0,
    ["aFULLWIDTH CENT SIGNkPOUND SIGNkNOT SIGNkMACRONkBROKEN BARkYEN SIGNkWON SIGN"]),
    (0xFFE8,
    ["aHALFWIDTH FORMS LIGHT VERTICALkLEFTWARDS ARROWkUPWARDS ARROWkRIGHTWARDS ARROWkDOWNWARDS A",
     "RROWkBLACK SQUAREkWHITE CIRCLE"]),
    (0xFFF9,
    ["aINTERLINEAR ANNOTATION ANCHORxSEPARATORxTERMINATORaOBJECT REPLACEMENT CHARACTERaREPLACEME",
     "NT CHARACTER"])]

end MockApi.Text
