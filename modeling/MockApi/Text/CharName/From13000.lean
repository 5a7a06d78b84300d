/-!
# Names of characters: U+13000 to U+1CFC3

* `namesFrom13000` : runs of characters with their names, in the form that `Text.charOfName?` reads.

The names are those of Unicode 14.
-/

namespace MockApi.Text

def namesFrom13000 : List (Nat × List String) :=
   [(0x13000,
    ["aEGYPTIAN HIEROGLYPH A001x2x3x4x5yAx6yAyBx7x8x9w10x1x2x3x4yAx5x6x7yAx8x9w20x1x2x3x4x5x6x7x",
     "8x9w30x1x2yAx3x4x5x6x7x8x9w40yAx1x2yAx3yAx4x5yAx6x7x8x9w50x1x2x3x4"]),
    (0x13040,
    ["aEGYPTIAN HIEROGLYPH A055x6x7x8x9w60x1x2x3x4x5x6x7x8x9w70uB001x2x3x4x5yAx6x7x8x9uC001x2yAy",
     "ByCx3x4x5x6x7x8x9w10yAx1x2x3x4x5x6x7x8x9w20x1x2x3x4uD001x2x3x4x5x6x7x8yAx9"]),
    (0x13080,
    ["aEGYPTIAN HIEROGLYPH D010x1x2x3x4x5x6x7x8x9w20x1x2x3x4x5x6x7yAx8x9w30x1yAx2x3x4yAx5x6x7x8x",
     "9w40x1x2x3x4x5x6yAx7x8yAx9w50yAyByCyDyEyFyGyHyIx1x2yAx3x4yAx5x6x7"]),
    (0x130C0,
    ["aEGYPTIAN HIEROGLYPH D058x9w60x1x2x3x4x5x6x7yAyByCyDyEyFyGyHuE001x2x3x4x5x6x7x8yAx9yAw10x1",
     "x2x3x4x5x6yAx7yAx8x9w20yAx1x2x3x4x5x6x7x8yAx9w30x1x2x3x4yAx6x7x8uF001yA"]),
    (0x13100,
    ["aEGYPTIAN HIEROGLYPH F002x3x4x5x6x7x8x9w10x1x2x3yAx4x5x6x7x8x9w20x1yAx2x3x4x5x6x7x8x9w30x1",
     "yAx2x3x4x5x6x7yAx8yAx9w40x1x2x3x4x5yAx6yAx7yAx8x9w50x1yAyByCx2x3uG001"]),
    (0x13140,
    ["aEGYPTIAN HIEROGLYPH G002x3x4x5x6yAx7yAyBx8x9w10x1yAx2x3x4x5x6x7x8x9w20yAx1x2x3x4x5x6yAx7x",
     "8x9w30x1x2x3x4x5x6yAx7yAx8x9w40x1x2x3yAx4x5yAx6x7x8x9w50x1x2x3x4uH001"]),
    (0x13180,
    ["aEGYPTIAN HIEROGLYPH H002x3x4x5x6yAx7x8uI001x2x3x4x5yAx6x7x8x9yAw10yAx1yAx2x3x4x5uK001x2x3",
     "x4x5x6x7x8uL001x2yAx3x4x5x6yAx7x8uM001yAyBx2x3yAx4x5x6x7x8x9w10yAx1x2yAyByC"]),
    (0x131C0,
    ["aEGYPTIAN HIEROGLYPH M012DyEyFyGyHx3x4x5yAx6yAx7yAx8x9w20x1x2yAx3x4yAx5x6x7x8yAx9w30x1yAx2",
     "x3yAyBx4x5x6x7x8x9w40yAx1x2x3x4uN001x2x3x4x5x6x7x8x9w10x1x2x3x4x5x6x7"]),
    (0x13200,
    ["aEGYPTIAN HIEROGLYPH N018yAyBx9w20x1x2x3x4x5yAx6x7x8x9w30x1x2x3yAx4yAx5yAx6x7yAx8x9w40x1x2",
     "vL001y2y3y4y5zAy6y7y8y9x10y1y2y3y4y5y6y7zAy8y9x20vU001y2y3y4y5y6y7y8y9x10"]),
    (0x13240,
    ["aEGYPTIAN HIEROGLYPH NU010Ay1zAy2y3y4y5y6y7y8zAy9x20y1y2zAuO001yAx2x3x4x5yAx6yAyByCyDyEyFx",
     "7x8x9w10yAyByCx1x2x3x4x5x6x7x8x9yAw20yAx1x2x3x4yAx5yAx6x7x8x9yAw30yAx1"]),
    (0x13280,
    ["aEGYPTIAN HIEROGLYPH O032x3yAx4x5x6yAyByCyDx7x8x9w40x1x2x3x4x5x6x7x8x9w50yAyBx1uP001yAx2x3",
     "yAx4x5x6x7x8x9w10x1uQ001x2x3x4x5x6x7uR001x2yAx3yAyBx4x5x6x7x8x9w10yAx1x2x3"]),
    (0x132C0,
    ["aEGYPTIAN HIEROGLYPH R014x5x6yAx7x8x9w20x1x2x3x4x5x6x7x8x9uS001x2yAx3x4x5x6yAx7x8x9w10x1x2",
     "x3x4yAyBx5x6x7yAx8x9w20x1x2x3x4x5x6yAyBx7x8x9w30x1x2x3x4x5yAx6x7x8x9"]),
    (0x13300,
    ["aEGYPTIAN HIEROGLYPH S040x1x2x3x4x5x6uT001x2x3yAx4x5x6x7yAx8yAx9yAw10x1yAx2x3x4x5x6yAx7x8x",
     "9w20x1x2x3x4x5x6x7x8x9w30x1x2yAx3yAx4x5x6uU001x2x3x4x5x6yAyBx7x8x9w10x1"]),
    (0x13340,
    ["aEGYPTIAN HIEROGLYPH U012x3x4x5x6x7x8x9w20x1x2x3yAx4x5x6x7x8x9yAw30x1x2yAx3x4x5x6x7x8x9w40",
     "x1x2uV001yAyByCyDyEyFyGyHyIx2yAx3x4x5x6x7yAyBx8x9w10x1yAyByCx2yAyBx3"]),
    (0x13380,
    ["aEGYPTIAN HIEROGLYPH V014x5x6x7x8x9w20yAyByCyDyEyFyGyHyIyJyKyLx1x2x3yAx4x5x6x7x8yAx9yAw30y",
     "Ax1yAx2x3yAx4x5x6x7yAx8x9w40yAuW001x2x3yAx4x5x6x7x8x9yAw10yAx1x2x3x4"]),
    (0x133C0,
    ["aEGYPTIAN HIEROGLYPH W014Ax5x6x7yAx8yAx9w20x1x2x3x4yAx5uX001x2x3x4yAyBx5x6yAx7x8yAuY001yAx",
     "2x3x4x5x6x7x8uZ001x2yAyByCyDx3yAyBx4yAx5yAx6x7x8x9w10x1x2x3x4x5yAyByCyDyE"]),
    (0x13400,
    ["aEGYPTIAN HIEROGLYPH Z015FyGyHyIx6yAyByCyDyEyFyGyHuAA001y2y3y4y5y6y7zAzBy8y9x10y1y2y3y4y5y",
     "6y7y8y9x20y1y2y3y4y5y6y7y8y9x30y1y2"]),
    (0x13430,
    ["aEGYPTIAN HIEROGLYPH VERTICAL JOINERuHORIZONTAL JOINERuINSERT AT TOP STARTzT AT BOTTOM STA",
     "RTzT AT TOP ENDzT AT BOTTOM ENDuOVERLAY MIDDLEuBEGIN SEGMENTuEND SEGMENT"]),
    (0x14400,
    ["aANATOLIAN HIEROGLYPH A001y2y3y4y5y6y7y8y9x10zAy1y2y3y4y5y6y7y8y9x20y1y2y3y4y5y6zAy7y8y9x3",
     "0y1y2y3y4y5y6y7y8y9zAx40y1zAy2y3y4y5zAy6zAzBy7y8y9x50y1y2y3y4y5y6y7"]),
    (0x14440,
    ["aANATOLIAN HIEROGLYPH A058y9x60y1y2y3y4y5y6zAzBzCy7y8y9x70y1y2y3y4y5y6y7y8y9x80y1y2y3y4y5y",
     "6y7y8y9x90y1y2y3y4y5y6y7zAy8zAy9w100zAy1zAy2zAy3y4zAzBzCy5zAzBy6y7zA"]),
    (0x14480,
    ["aANATOLIAN HIEROGLYPH A107BzCy8y9x10zAzBy1y2y3y4y5zAy6y7y8y9x20y1y2y3y4y5zAy6y7y8y9x30y1y2",
     "y3y4y5zAy6y7y8y9x40y1y2y3y4y5y6y7y8y9x50y1y2y3y4y5y6y7y8y9x60y1y2y3y4"]),
    (0x144C0,
    ["aANATOLIAN HIEROGLYPH A165y6y7y8y9x70y1y2y3y4y5y6y7y8y9x80y1y2y3y4y5y6y7y8y9x90y1y2y3y4y5y",
     "6y7y8y9w200y1y2zAzBy3y4y5y6y7zAy8y9zAx10y1y2y3y4y5zAy6zAy7y8y9x20y1y2"]),
    (0x14500,
    ["aANATOLIAN HIEROGLYPH A223y4y5y6y7zAy8y9x30y1y2y3y4y5y6y7y8y9x40y1y2y3y4y5y6y7y8y9x50y1y2y",
     "3y4y5y6y7y8y9x60y1y2y3y4y5y6y7zAy8y9x70y1y2y3y4y5y6y7y8y9x80y1y2y3y4"]),
    (0x14540,
    ["aANATOLIAN HIEROGLYPH A285y6y7y8y9zAx90y1y2y3y4zAy5y6y7y8y9zAw300y1y2y3y4y5y6y7y8y9zAx10y1",
     "y2y3y4y5y6y7y8y9x20y1y2y3y4y5y6y7y8y9zAx30y1y2AzBzCy3y4y5y6zAzBzCy7y8"]),
    (0x14580,
    ["aANATOLIAN HIEROGLYPH A339x40y1y2y3y4y5y6y7y8y9x50y1y2y3y4y5y6y7y8y9zAx60y1y2y3y4zAy5y6y7y",
     "8zAy9x70y1zAy2y3y4y5y6y7y8y9x80y1zAy2y3 RA OR RIzAy4y5y6zAy7y8y9x90y1y2y3 EIGHTy4y5"]),
    (0x145C0,
    ["aANATOLIAN HIEROGLYPH A396y7y8y9w400y1y2y3y4y5y6y7y8y9x10 BEGIN LOGOGRAM MARKzA END LOGOGR",
     "AM MARKy1y2y3y4y5y6y7y8y9x20y1y2y3y4y5y6y7y8y9x30y1y2y3y4y5y6y7y8y9x40y1y2y3y4y5y6y7y8y9x5",
     "0zAy1y2y3y4y5y6y7"]),
    (0x14600,
    ["aANATOLIAN HIEROGLYPH A457Ay8y9x60y1y2y3y4y5y6y7y8y9x70y1y2y3y4y5y6y7y8y9x80y1y2y3y4y5y6y7",
     "y8y9x90y1y2y3y4y5y6y7w501y2y3y4y5y6y7y8y9x10y1y2y3y4y5y6y7y8y9x20y1y2y3"]),
    (0x14640,
    ["aANATOLIAN HIEROGLYPH A524y5y6y7y8y9x30"]),
    (0x16800,
    ["aBAMUM LETTER PHASE-A NGKUE MFONvGBIEE FONvPON MFON PIPAEMGBIEEzMFON PIPAEMBAvNAA MFONvSHU",
     "ENSHUETvTITA MFONvNZA MFONvSHINDA PA NJIvPON PA NJI PIPAEMGBIEEzPA NJI PIPAEMBAvMAEMBGBIEE",
     "vTU MAEMBAvNGANGUvMAEMVEUXxNSUAEwVEUAENGAMvSEUNYAMvNTOQPENvKEUKEUTNDAvNKINDIvSUUvNGKUENZEU",
     "MvLAPAQwET KUTvNTAP MFAAvMAEKEUPvPASHAEvGHEUAERAEvPAMSHAEvMON NGGEUAETvNZUN MEUTvU YUQ NAE",
     "vGHEUAEGHEUAEvNTAP NTAAvSISAvMGBASAwEUNJOMNDEUQwOOMPUQvKAFAvPA LEERAEWAvNDA LEERAEWAvPETvM",
     "AEMKPENvNIKAvPUPvTUAEPvLUAEPvSONJAMvTEUTEUWENvMAENYIvKETvNDAANGGEUAETvKUOQvMOOMEUTvSHUMvLO",
     "MMAEvFIRIvROMvKPOQvSOQvMAP PIEETvSHIRAEvNTAP"]),
    (0x16840,
    ["aBAMUM LETTER PHASE-A SHOQ NSHUT YUMvNYIT MONGKEUAEQvPAARAEvNKAARAEvUNKNOWNvNGGENvMAESIvNJ",
     "AMvMBANYIvNYETvTEUAENvSOTvPAAMvNSHIEEvMAEMvNYIvKAQvNSHAvVEEvLUvNENwAQvMBAQtB NSHUETvTU MAE",
     "MGBIEEvSIEEwET TUvLOM NTEUMvMBA MAELEEvKIEEMvYEURAEvMBAARAEvKAMvPEESHIvYAFU LEERAEWAvLAM N",
     "SHUT NYAMvNTIEE SHEUOQwDU NJAAvGHEUGHEUAEMvPITvTU NSIEEvSHET NJAQyUAEQTUvMFON TEUAEQwBIT M",
     "BAAKETvNYI NTEUMvKEUPUQvGHEUGHENvKEUYEUXvLAANAEvPARUMvVEUMvNGKINDI MVOPxGEU MBUvWUAETvSAKE",
     "UAEvTAAMvMEUQvNGGUOQzOQ LARGEvMFIYAQvSUEvMBEURIwONTIEEN"]),
    (0x16880,
    ["aBAMUM LETTER PHASE-B NYAEMAEvPUNGAAMvMEUT NGGEETvFEUXvMBUOQvFEEvKEUAEMvMA NJEUAENAzJUQAvL",
     "ETvNGGAAMwSENvMAvKIQvNGOMtC NGKUE MAEMBAwZAvYUMvWANGKUOQvNGGENwDEUAEREEwGKAQvGHARAEvMBEEKE",
     "ETvGBAYIvNYIR MKPARAQ MEUNwTU MBITvMBEUMvPIRIEENvNDOMBUvMBAA CABBAGE-TREEvKEUSHEUAEPvGHAPv",
     "KEUKAQvYU MUOMAEvNZEUMvMBUEvNSEUAENvMBITvYEUQvKPARAQwAAvSEUXvNDIDAvTAASHAEvNJUEQvTITA YUEv",
     "SUAETvNGGUAEN NYAMvVEUXvNANSANAQvMA KEUAERIvNTAAwGGUONvLAPvMBIRIEENwGBASAQvNTEUNGBAvTEUTEU",
     "XvNGGUMvFUEvNDEUTwSAxHAQ"]),
    (0x168C0,
    ["aBAMUM LETTER PHASE-C BUNGvVEUAEPENvMBERAEvRUvNJAEMvLAMvTITUAEPvNSUOT NGOMwJEEEEvKETvNGGUv",
     "MAESIwBUAEMvLUvKUTvNJAMwGOMvWUPvNGGUEETwSOMwTENvKUOP NKAARAEvNSUNwDAMvMA NSIEEvYAAvNDAPvSH",
     "UEQwETFONvMBIwAEMBAwBANYIvKEUSEUXvMBEUXvKEUMvMBAA PICKETvYUWOQvNJEUXvMIEEwUAEvSHIQvKEN LAW",
     "zFATIGUEvNGAQwAQvLIQvPINwENvTETtD MBUOvWAPvNJIvMFONvNJIEEvLIEEvNJEUTwSHEEwGGAAMAEwYAMvWUAE",
     "NvNGKUNvSHEEvNGKAPvKEUAETMEUN"]),
    (0x16900,
    ["aBAMUM LETTER PHASE-D TEUTvSHEUAEvNJAPvSUEvKETvYAEMMAEvKUOMvSAPvMFEUTvNDEUXvMALEERIwEUTvSE",
     "UAEQvYENvNJEUAEMvKEUOT MBUAEvNGKEURIvTUvGHAAvNGKYEEvFEUFEUAETvNDEEvMGBOFUMvLEUAEPvNDONvMON",
     "IwGBEUNvPUUTvMGBIEEwFOvLUMvNSIEEPvMBAAvKWAETvNYETvTEUAENvSOTvYUWOQvKEUMvRAEMvTEEEEvNGKEUAE",
     "QvMFEUAEvNSIEETvKEUPvPIPwEUTAEvNYUEvLETvNGGAAMvMFIEEvNGGWAENvYUOMvPAPvYUOPvNDAMwTEUMvSUAEv",
     "KUNvNGGEUXxKIEEvTUOTvMEUNvKUQ"]),
    (0x16940,
    ["aBAMUM LETTER PHASE-D NSUMvTEUNvMAENJETvNGGAPvLEUMvNGGUOMwSHUTwJUEQvGHEUAEvKUvREN OLDvTAEw",
     "OQvNYIvRIIvLEEEEvMEEEEwvSUUvMUvSHIIxEUXvKYEEvNUvSHUvNTEEvPEEvNIvSHOQvPUQvMVOPvLOQvREN MUCH",
     "vTIvNTUUvMBAA SEVENvSAQvFAAtE NDAPvTOONvMBEUMvLAPvVOMvLOONvPAAvSOMvRAQvNSHUOPwDUNvPUAEvTAM",
     "vNGKAvKPEUXvWUOvSEEvNGGEUAETvPAAMvTOOvKUOPvLOMvNSHIEEwGOPvMAEMvNGKEUX"]),
    (0x16980,
    ["aBAMUM LETTER PHASE-E NGOQwSHUEvRIMGBAvNJEUXvPEEMvSAAvNGGURAEvMGBAvGHEUXvNGKEUAEMwJAEMLIvM",
     "APvLOOTvNGGEEEEwDIQvTAEN NTEUMvSETvPUMvNDAA SOFTNESSwGGUAESHAE NYAMvYIEEvGHEUNvTUAEvYEUAEv",
     "POvTUMAEvKEUAEvSUAENvTEUAEQvVEUAEvWEUXvLAAMvPUvTAAQvGHAAMAEvNGEUREUTvSHEUAEQvMGBENwBEEvNZA",
     "QwKOMvGBETvTUMvKUETvYAPvNYI CLEAVERvYITvMFEUQvNDIAQvPIEEQvYUEQvLEUAEMvFUEvGBEUXvNGKUPvKETv",
     "MAEvNGKAAMIvGHETvFAvNTUMvPEUTvYEUMvNGGEUAE"]),
    (0x169C0,
    ["aBAMUM LETTER PHASE-E NYI BETWEENwZUQvPOONvMIEEvFUETvNAEvMUAEvGHEUAEvFU IvMVIvPUAQvNGKUMvK",
     "UTvPIETvNTAPvYEUAETvNGGUPvPA PEOPLEvFU CALLwOMvNJEEvAvTOQvOvIvLAQvPA PLURALvTAAxQvNDAA MY ",
     "HOUSEvSHIQvYEUXvNGUAEvYUAENwOQ SWIMMINGzCOVERwUQxNvKEUXvPEUXvNJEE EPOCHvPUEvWUEvFEEvVEEvLU",
     "vMIvREUXwAEvNGUAETxAvSHOyQvFU REMEDYvNAvPIvLOQvKOvMENwAxQvTEUvKIvMON"]),
    (0x16A00,
    ["aBAMUM LETTER PHASE-E TENvFAQvGHOMtF KAvUvKUvEEvREEvTAEvNYIvLAvRIIxEEvMEEEEvTAAvNDAAwJAEMv",
     "MvSUUwHIIwIwEUXvKYEEwETvNUAExwJUAEvYOQvSHUvYAvNSHAvPEUXvNTEEvWUEvPEEvRUvNIvREUXvKENvNGKWAE",
     "NxGAvSHOvPUAEvFOMvWAvLIwOQvKOvMBENvRENvMAwOwBAAvTETvKPAvSAMBAvVUEQ"]),
    (0x16A40,
    ["aMRO LETTER TAlNGIlYOlMIMlBAlDAlAlPHIlKHAIlHAOlDAIlCHUlKEAAElOLlMAEMlNINlPAlOOmlROlSHIlTHE",
     "AlEAlWAlElKOlLANnlHAIlRIlTEK"]),
    (0x16A60,
    ["aMRO DIGIT ZEROkONEkTWOlHREEkFOURlIVEkSIXlEVENkEIGHTkNINE"]),
    (0x16A6E,
    ["aMRO DANDAfOUBLE DANDAaTANGSA LETTER OZpCpQpXoAZpCpQpXoVZpCpQpXoEZpCpQpXoIZpCpQpXoUZpCpQpX",
     "oAWZqCqQqXoUIZqCqQqXoFINAL NGoLONG UEXoSHORT UEZuAWXoUECqZqQqXpIUZrCrQrXoMZpCpQpXoKApHAoGA",
     "oNGAoSAoYAoWAoPAoNYAoPHAoBAoMAoNAoHA"]),
    (0x16AAE,
    ["aTANGSA LETTER LAoHTAoTAoDAoRAoNHAoSHAoCAoTSAoGHAoHTTAoTHAoXAoFAoDHAoCHAoZA"]),
    (0x16AC0,
    ["aTANGSA DIGIT ZEROnONEnTWOoHREEnFOURoIVEnSIXoEVENnEIGHTnNINE"]),
    (0x16AD0,
    ["aBASSA VAH LETTER ENNIrKArSErFArMBErYIErGAHrDHIIrKPAHrJOrHWAHrWArZOrGBUrDOrCErUWUrTOrBArVU",
     "rYEINrPArWADDArArOsOrUrEEsrI"]),
    (0x16AF0,
    ["aBASSA VAH COMBINING HIGH TONEuLOW TONEuMID TONEuLOW-MID TONEuHIGH-LOW TONEkFULL STOP"]),
    (0x16B00,
    ["aPAHAWH HMONG VOWEL KEEBwVuIBvVuAUBwVuUBvVuEBvVuAIBwVuOOBwVuAWBwVuUABwVuOBvVuIABwVuABvVuWB",
     "vVuAABwVnCONSONANT VAUxNTSAUxLAUxHAUxNLAUxRAUxNKAUxQHAUxYAUxHLAUxMAUxCHAUxNCHAUxHNAUxPLHAU",
     "xNTHAUyAUxAUxXAUxCAUnMARK CIM TUBwSOwKESxHAVwSUAMwHOMwTAUMnSIGN VOS THOMxSHAB CEEBsCIM CHE",
     "EMsVOS THIABwFEEMsXYEEM NTXIVyRHOyTOVyFAIB"]),
    (0x16B40,
    ["aPAHAWH HMONG SIGN VOS SEEVsMEEJ SUABsVOS NRUAsIB YAMsXAUSsCIM TSOV ROG"]),
    (0x16B50,
    ["aPAHAWH HMONG DIGIT ZEROtONEtTWOuHREEtFOURuIVEtSIXuEVENtEIGHTtNINE"]),
    (0x16B5B,
    ["aPAHAWH HMONG NUMBER TENSuHUNDREDSuTEN THOUSANDSuMILLIONSuHUNDRED MILLIONSuTEN BILLIONSvRI",
     "LLIONS"]),
    (0x16B63,
    ["aPAHAWH HMONG SIGN VOS LUBsXYOOsHLIsTHIRD-STAGE HLIsZWJ THAJsHNUBsNQIGsXIABsNTUJsAVsTXHEEJ",
     " CEEVsMEEJ TSEEBsTAUsLOSsMUSsCIM HAIS LUS NTOG NTOGwCUAM TSHOOJwTXWVzV CHWVwPUB DAWBwNRES ",
     "TOS"]),
    (0x16B7D,
    ["aPAHAWH HMONG CLAN SIGN TSHEEJxYEEGxLISyAUJxXYOOJxKOOxHAWJxMUASxTHOJySABxPHABxKHABxHAMxVAJ",
     "xFAJxYAJxTSWBxKWMxVWJ"]),
    (0x16E40,
    ["aMEDEFAIDRIN CAPITAL LETTER MzR SzR VzR WzR ATIUzR ZzR KPzR PzR TzR GzR FzR IzR KzR AzR Jz",
     "R EzR BzR CzR UzR YUzR LzR QzR HPzR NYzR XzR DzR OEzR NzR RzR OzR AIzR YmSMALL LETTER MzSz",
     "VzWzATIUzZzKPzPzTzGzFzIzKzAzJzEzBzCzUzYUzLzQzHPzNYzXzDzOEzNzRzOzAIzY"]),
    (0x16E80,
    ["aMEDEFAIDRIN DIGIT ZEROsONEsTWOtHREEsFOURtIVEsSIXtEVENsEIGHTsNINEmNUMBER TENtELEVENtTWELVE",
     "uHIRTEENtFOURTEENuIFTEENtSIXTEENuEVENTEENtEIGHTEENtNINETEENmDIGIT ONE ALTERNATE FORMsTWO A",
     "LTERNATE FORMtHREE ALTERNATE FORMmCOMMAmFULL STOPmSYMBOL AIVAmEXCLAMATION OH"]),
    (0x16F00,
    ["aMIAO LETTER PAmBAmYI PAmPLAmMAnHAmARCHAIC MAmFAmVAnFAmTAmDAmYI TTAqAmTTAmDDAmNAnHAmYI NNA",
     "mARCHAIC NAmNNAoHAmLAnYAnHAoYAmTLHAmDLHAmTLHYAmDLHYAmKAmGAmYI KAmQAnGAmNGAoHAmARCHAIC NGAm",
     "HAmXAmGHAoHAmTSSAmDZZAmNYAoHAmTSHAmDZHAmYI TSHApDZHAmREFORMED TSHAmSHAnSAmZHAnSHAmTSAmDZAm",
     "YI TSAmSAmZAnSAnZAoSAmARCHAIC ZZA"]),
    (0x16F40,
    ["aMIAO LETTER ZZYAoSYAmWAmAHmHHAmBRImSYImDZYImTEnSEmRTE"]),
    (0x16F4F,
    ["aMIAO SIGN CONSONANT MODIFIER BARfLETTER NASALIZATIONfSIGN ASPIRATIONkREFORMED VOICINGtASP",
     "IRATIONfVOWEL SIGN ArArHHrNsGqOrOqWOrqErNsGqOEYqIrAsNtGrOrErIrUrNGqUrAsNtGrUrEIrNGqYrIqAEs",
     "EqERRqROUNDED ERRqERqROUNDED ERqAIqEIqAUqOUqNrGqUOGqYUIqOGrERqVWqIGqEAqIONGqUI"]),
    (0x16F8F,
    ["aMIAO TONE RIGHTkTOP RIGHTkABOVEkBELOWfLETTER TONE-2r3r4r5r6r7r8mREFORMED TONE-1z-2z-4z-5z",
     "-6z-8"]),
    (0x16FE0,
    ["aTANGUT ITERATION MARKaNUSHU ITERATION MARKaOLD CHINESE HOOK MARKmITERATION MARKaKHITAN SM",
     "ALL SCRIPT FILLER"]),
    (0x16FF0,
    ["aVIETNAMESE ALTERNATE READING MARK CAzING MARK NHAY"]),
    (0x18800,
    ["aTANGUT COMPONENT-001t2t3t4t5t6t7t8t9s10t1t2t3t4t5t6t7t8t9s20t1t2t3t4t5t6t7t8t9s30t1t2t3t4",
     "t5t6t7t8t9s40t1t2t3t4t5t6t7t8t9s50t1t2t3t4t5t6t7t8t9s60t1t2t3t4"]),
    (0x18840,
    ["aTANGUT COMPONENT-065t6t7t8t9s70t1t2t3t4t5t6t7t8t9s80t1t2t3t4t5t6t7t8t9s90t1t2t3t4t5t6t7t8",
     "t9r100t1t2t3t4t5t6t7t8t9s10t1t2t3t4t5t6t7t8t9s20t1t2t3t4t5t6t7t8"]),
    (0x18880,
    ["aTANGUT COMPONENT-129s30t1t2t3t4t5t6t7t8t9s40t1t2t3t4t5t6t7t8t9s50t1t2t3t4t5t6t7t8t9s60t1t",
     "2t3t4t5t6t7t8t9s70t1t2t3t4t5t6t7t8t9s80t1t2t3t4t5t6t7t8t9s90t1t2"]),
    (0x188C0,
    ["aTANGUT COMPONENT-193t4t5t6t7t8t9r200t1t2t3t4t5t6t7t8t9s10t1t2t3t4t5t6t7t8t9s20t1t2t3t4t5t",
     "6t7t8t9s30t1t2t3t4t5t6t7t8t9s40t1t2t3t4t5t6t7t8t9s50t1t2t3t4t5t6"]),
    (0x18900,
    ["aTANGUT COMPONENT-257t8t9s60t1t2t3t4t5t6t7t8t9s70t1t2t3t4t5t6t7t8t9s80t1t2t3t4t5t6t7t8t9s9",
     "0t1t2t3t4t5t6t7t8t9r300t1t2t3t4t5t6t7t8t9s10t1t2t3t4t5t6t7t8t9s20"]),
    (0x18940,
    ["aTANGUT COMPONENT-321t2t3t4t5t6t7t8t9s30t1t2t3t4t5t6t7t8t9s40t1t2t3t4t5t6t7t8t9s50t1t2t3t4",
     "t5t6t7t8t9s60t1t2t3t4t5t6t7t8t9s70t1t2t3t4t5t6t7t8t9s80t1t2t3t4"]),
    (0x18980,
    ["aTANGUT COMPONENT-385t6t7t8t9s90t1t2t3t4t5t6t7t8t9r400t1t2t3t4t5t6t7t8t9s10t1t2t3t4t5t6t7t",
     "8t9s20t1t2t3t4t5t6t7t8t9s30t1t2t3t4t5t6t7t8t9s40t1t2t3t4t5t6t7t8"]),
    (0x189C0,
    ["aTANGUT COMPONENT-449s50t1t2t3t4t5t6t7t8t9s60t1t2t3t4t5t6t7t8t9s70t1t2t3t4t5t6t7t8t9s80t1t",
     "2t3t4t5t6t7t8t9s90t1t2t3t4t5t6t7t8t9r500t1t2t3t4t5t6t7t8t9s10t1t2"]),
    (0x18A00,
    ["aTANGUT COMPONENT-513t4t5t6t7t8t9s20t1t2t3t4t5t6t7t8t9s30t1t2t3t4t5t6t7t8t9s40t1t2t3t4t5t6",
     "t7t8t9s50t1t2t3t4t5t6t7t8t9s60t1t2t3t4t5t6t7t8t9s70t1t2t3t4t5t6"]),
    (0x18A40,
    ["aTANGUT COMPONENT-577t8t9s80t1t2t3t4t5t6t7t8t9s90t1t2t3t4t5t6t7t8t9r600t1t2t3t4t5t6t7t8t9s",
     "10t1t2t3t4t5t6t7t8t9s20t1t2t3t4t5t6t7t8t9s30t1t2t3t4t5t6t7t8t9s40"]),
    (0x18A80,
    ["aTANGUT COMPONENT-641t2t3t4t5t6t7t8t9s50t1t2t3t4t5t6t7t8t9s60t1t2t3t4t5t6t7t8t9s70t1t2t3t4",
     "t5t6t7t8t9s80t1t2t3t4t5t6t7t8t9s90t1t2t3t4t5t6t7t8t9r700t1t2t3t4"]),
    (0x18AC0,
    ["aTANGUT COMPONENT-705t6t7t8t9s10t1t2t3t4t5t6t7t8t9s20t1t2t3t4t5t6t7t8t9s30t1t2t3t4t5t6t7t8",
     "t9s40t1t2t3t4t5t6t7t8t9s50t1t2t3t4t5t6t7t8t9s60t1t2t3t4t5t6t7t8"]),
    (0x1AFF0,
    ["aKATAKANA LETTER MINNAN TONE-2zNE-3zNE-4zNE-5"]),
    (0x1AFF5,
    ["aKATAKANA LETTER MINNAN TONE-7zNE-8xNASALIZED TONE-1zSALIZED TONE-2zSALIZED TONE-3zSALIZED",
     " TONE-4zSALIZED TONE-5"]),
    (0x1AFFD,
    ["aKATAKANA LETTER MINNAN NASALIZED TONE-7zSALIZED TONE-8"]),
    (0x1B000,
    ["aKATAKANA LETTER ARCHAIC EaHIRAGANA LETTER ARCHAIC YEbENTAIGANA LETTER A-1u2u3uWOsI-1u2u3u",
     "4sU-1u2u3u4u5sE-2u3u4u5u6sO-1u2u3sKA-1v2v3v4v5v6v7v8v9v10w1vKEtI-1v2v3v4v5v6v7v8tU-1v2v3v4",
     "v5v6v7tE-1v2v3v4v5v6tO-1v2v3vKIsSA-1v2v3v4"]),
    (0x1B040,
    ["aHENTAIGANA LETTER SA-5v6v7v8tI-1v2v3v4v5v6tU-1v2v3v4v5v6v7v8tE-1v2v3v4v5tO-1v2v3v4v5v6v7s",
     "TA-1v2v3v4tI-1v2v3v4v5v6v7tU-1v2v3v4vTOtE-1v2v3v4v5v6v7v8v9tO-1v2v3v4v5v6vRAsNA-1v2"]),
    (0x1B080,
    ["aHENTAIGANA LETTER NA-3v4v5v6v7v8v9tI-1v2v3v4v5v6v7vTEtU-1v2v3tE-1v2v3v4v5v6vKOtO-1v2v3v4v",
     "5sHA-1v2v3v4v5v6v7v8v9v10w1tI-1v2v3v4v5v6v7tU-1v2v3tE-1v2v3v4v5v6v7tO-1v2v3v4v5v6"]),
    (0x1B0C0,
    ["aHENTAIGANA LETTER HO-7v8sMA-1v2v3v4v5v6v7tI-1v2v3v4v5v6v7tU-1v2v3v4tE-1v2vMAtO-1v2v3v4v5v",
     "6sYA-1v2v3v4v5vYOtU-1v2v3v4tO-1v2v3v4v5v6sRA-1v2v3v4tI-1v2v3v4v5v6v7tU-1v2v3v4v5v6tE-1v2"]),
    (0x1B100,
    ["aHENTAIGANA LETTER RE-3v4tO-1v2v3v4v5v6sWA-1v2v3v4v5tI-1v2v3v4v5tE-1v2v3v4tO-1v2v3v4v5v6v7",
     "sN-MU-MO-1z-2bIRAGANA LETTER ARCHAIC WUaKATAKANA LETTER ARCHAIC YIzEyWU"]),
    (0x1B150,
    ["aHIRAGANA LETTER SMALL WIxExO"]),
    (0x1B164,
    ["aKATAKANA LETTER SMALL WIxExOwN"]),
    (0x1BC00,
    ["aDUPLOYAN LETTER HqXqPqTqFqKqLqBqDqVqGqRqP NqD SqF NqK MqR SqTHqSLOAN DHqDHqKKqSLOAN JqHLq",
     "LHqRHqMqNqJqSqM NqN MqJ MqS JqM WITH DOTqN WITH DOTqJ WITH DOTzTS INSIDE AND ABOVEqS WITH ",
     "DOTzT BELOWqM SqN SqJ SqS SqM N SqN M SqJ M SqS J SqJ S WITH DOTsNt SqS Tt RsPt RqT SsR Sq",
     "WrHr RqS NsMqK R SqG R SqS K"]),
    (0x1BC40,
    ["aDUPLOYAN LETTER S K RqAqSLOAN OWqOArqAOUqIqEqIEqSHORT IqUIqEEqSLOAN EHqROMANIAN IqSLOAN E",
     "EqLONG IqYEqUqEUqXWqU NqLONG UqROMANIAN UqUHqSLOAN UqOOHrWrUqWArOrIrEIrOWqNASAL UwOwIwAqPE",
     "RNIN ANyMqSLOAN ENwANwONqVOCALIC M"]),
    (0x1BC70,
    ["aDUPLOYAN AFFIX LEFT HORIZONTAL SECANTpMID HORIZONTAL SECANTpRIGHT HORIZONTAL SECANTpLOW V",
     "ERTICAL SECANTpMID VERTICAL SECANTpHIGH VERTICAL SECANTpATTACHED SECANTyLEFT-TO-RIGHT SECA",
     "NTyTANGENTzAILyE HOOKyI HOOKyTANGENT HOOK"]),
    (0x1BC80,
    ["aDUPLOYAN AFFIX HIGH ACUTEuTIGHT ACUTEuGRAVEuLONG GRAVEuDOTuCIRCLEuLINEuWAVEuVERTICAL"]),
    (0x1BC90,
    ["aDUPLOYAN AFFIX LOW ACUTEtTIGHT ACUTEtGRAVEtLONG GRAVEtDOTtCIRCLEtLINEtWAVEtVERTICALtARROW"]),
    (0x1BC9C,
    ["aDUPLOYAN SIGN O WITH CROSSjTHICK LETTER SELECTORjDOUBLE MARKjPUNCTUATION CHINOOK FULL STO",
     "PaSHORTHAND FORMAT LETTER OVERLAPrCONTINUING OVERLAPrDOWN STEPrUP STEP"]),
    (0x1CF00,
    ["aZNAMENNY COMBINING MARK GORAZDO NIZKO S KRYZHEM ON LEFTyNIZKO S KRYZHEM ON LEFTyTSATA ON ",
     "LEFTyGORAZDO NIZKO ON LEFTyNIZKO ON LEFTySREDNE ON LEFTyMALO POVYSHE ON LEFTyPOVYSHE ON LE",
     "FTyVYSOKO ON LEFTyMALO POVYSHE S KHOKHLOM ON LEFTyPOVYSHE S KHOKHLOM ON LEFTyVYSOKO S KHOK",
     "HLOM ON LEFTyGORAZDO NIZKO S KRYZHEM ON RIGHTyNIZKO S KRYZHEM ON RIGHTyTSATA ON RIGHTyGORA",
     "ZDO NIZKO ON RIGHTyNIZKO ON RIGHTySREDNE ON RIGHTyMALO POVYSHE ON RIGHTyPOVYSHE ON RIGHTyV",
     "YSOKO ON RIGHTyMALO POVYSHE S KHOKHLOM ON RIGHTyPOVYSHE S KHOKHLOM ON RIGHTyVYSOKO S KHOKH",
     "LOM ON RIGHTyTSATA S KRYZHEMyMALO POVYSHE S KRYZHEMySTRANNO MALO POVYSHEyPOVYSHE S KRYZHEM",
     "zOVYSHE STRANNOyVYSOKO S KRYZHEMyMALO POVYSHE STRANNOyGORAZDO VYSOKOyZELOyONyRAVNOyTIKHAYA",
     "yBORZAYAyUDARKAyPODVERTKAyLOMKAyKUPNAYAzACHKAyZEVOKySKOBAyRAZSEKAyKRYZH ON LEFT"]),
    (0x1CF30,
    ["aZNAMENNY COMBINING TONAL RANGE MARK MRACHNOzRANGE MARK SVETLOzRANGE MARK TRESVETLOtMARK Z",
     "ADERZHKAyDEMESTVENNY ZADERZHKAyOTSECHKAyPODCHASHIEzODCHASHIE WITH VERTICAL STROKEyCHASHKAz",
     "HASHKA POLNAYAyOBLACHKOySOROCHYA NOZHKAyTOCHKAyDVOETOCHIEtATTACHING VERTICAL OMETtMARK CUR",
     "VED OMETyKRYZHtLOWER TONAL RANGE INDICATORjPRIZNAK MODIFIER LEVEL-2z LEVEL-3z DIRECTION FL",
     "IPz KRYZHz ROG"]),
    (0x1CF50,
    ["aZNAMENNY NEUME KRYUKu TIKHYpPARAKLITpDVA V CHELNUpKLYUCHpZANOZHEKpSTOPITSAx S OCHKOMpPERE",
     "VODKAy NEPOSTOYANNAYApSTOPITSA WITH SOROCHYA NOZHKApCHELYUSTKApPALKApZAPYATAYApGOLUBCHIK B",
     "ORZYzTIKHYzMRACHNYzSVETLYzTRESVETLYpVRAKHIYA PROSTAYAyMRACHNAYAySVETLAYAyTRESVETLAYAyKLYUC",
     "HEVAYA PROSTAYAzLYUCHEVAYA MRACHNAYAzLYUCHEVAYA SVETLAYAzLYUCHEVAYA TRESVETLAYApDOUBLE ZAP",
     "YATAYApREVERSED CHELYUSTKApDERBITSApKHAMILOpCHASHKApPODCHASHIEpSKAMEYTSA MRACHNAYAzSVETLAY",
     "AzTRESVETLAYAzTIKHAYApDEMESTVENNY KLYUCHpSKAMEYTSA KLYUCHEVAYA SVETLAYAzKLYUCHENEPOSTOYANN",
     "AYAzKLYUCHEVAYA TIKHAYAzDVOECHELNAYA PROSTAYAzDVOECHELNAYA SVETLAYAzDVOECHELNAYA NEPOSTOYA",
     "NNAYAzDVOECHELNAYA KLYUCHEVAYAqLOZHITIEy S ZAPYATOYzZAKRYTOEzS KRYZHEMpKRYZHpROGpFITApKOBY",
     "LApZMEYTSApSTATYAv S ZAPYATOYyKRYZHEMyZAPYATOY I KRYZHEMyKRYZHEM I ZAPYATOYwZAKRYTAYAzRYTA",
     "YA S ZAPYATOYwS ROGOMyDVUMYA ZAPYATYMIyZAPYATOY I PODCHASHIEM"]),
    (0x1CF90,
    ["aZNAMENNY NEUME POLKULIZMYpSTATYA NEPOSTOYANNAYArRELA PROSTAYAwMRACHNOTIKHAYAwKRYZHEVAYAwP",
     "OLUPOVODNAYAyVODNAYAwNEPOSTOYANNAYAwKLYUCHEPOVODNAYAzUCHENEPOSTOYANNAYAwTIKHAYA PUTNAYAwDV",
     "OECHELNAYAzECHELNOKRYZHEVAYAzECHELNOPOVODNAYAzECHELNAYA KLYUCHEVAYAzECHELNOPOVODNAYA KLYUC",
     "HEVAYAwGROMNAYA WITH SINGLE ZAPYATAYAzMOPOVODNAYA WITH SINGLE ZAPYATAYAzMNAYAzMOPOVODNAYAz",
     "MOPOVODNAYA WITH DOUBLE ZAPYATAYAzMOKRYZHEVAYAzMOKRYZHEVAYA POVODNAYApMECHIKv POVODNYwKLYU",
     "CHEVOYzUCHEPOVODNYzUCHENEPOSTOYANNYpSTRELA TRYASOGLASNAYAzASOPOVODNAYAzASOSTRELNAYApOSOKAu",
     " SVETLAYAvTRESVETLAYAvKRYUKOVAYA SVETLAYAwLYUCHEVAYA SVETLAYAzCHEVAYA NEPOSTOYANNAYApSTREL",
     "A KRYUKOVAYAzUKOVAYA POVODNAYAzUKOVAYA GROMNAYA WITH SINGLE ZAPYATAYAzUKOVAYA GROMOPOVODNA",
     "YA WITH SINGLE ZAPYATAYAzUKOVAYA GROMNAYAzUKOVAYA GROMOPOVODNAYAzUKOVAYA GROMOPOVODNAYA WI",
     "TH DOUBLE ZAPYATAYAzUKOVAYA GROMOKRYZHEVAYAzUKOVAYA GROMOKRYZHEVAYA POVODNAYAzUKOVAYA TRYA",
     "SKApKUFISMApOBLAKOpDUDApNEMKApPAUK"])]

end MockApi.Text
