/-!
# General categories

The characters of each general category, by the short and the long names of the
category.  Surrogates are no characters and have no entry.
-/

namespace FormRules.Unicode.Tables

/-- The names and the encoded ranges of each general category. -/
def categories : List (List String × List String) := [
  (["cc", "control", "cntrl"],
    ["AbFdRbG"]),
  (["cf", "format"],
    ["gRAcaKFWAhKAbXAoUBdCAftJAdaQEbAEbXEBJdghJAjPCgiZAPAnkKPbzqUDhwXHbtkzMAbEdR"]),
  (["cn", "unassigned"],
    ["biEBGDHABAUApHAbMBbYBDAcDHbBDGKkKAcIBdXNcHBbXBPAbCBBALEbFACEjDAIBCBWAHABCEBJBCBEHBDCAFBZBDA",
     "GDCBWAHACACACBBAFDCBDCBGEABGRJDAJADAWAHACAFBKADADBBOEBMGHADAIBCBWAHACAFBJBCBDGDDCAFBSJCAGCD",
     "AECCABACCCCDCMDFCDAEBBFBNVENADAXAQBJADAEGCADBBBEBKGWADAXAKAFBJADAEGCFCAEBKADLNADAbZADAGDQBb",
     "AADASCYAJABBHCBDGABAIFKBDLcGDbDbKCABAFAYABAXBFABAHAKBEbFcUAbKDbNAbKAPANbKhQABEBBoNAEBHABAEB",
     "bPAEBbHAEBHABAEBPAcFAEBcPBbGCbAFdIBGBzTCdLGWIYIULNADACLdQBKFKFbAFdLGbREcSJbFAMDMDBCbQBFKbSD",
     "bAFLCcKBcNAbDBLFKFOBbFbWcZAgKHcICPCcKEbRBLHbREuOBGBbMBGBIABABABAbFBcBAPAOBGATBDAJAdXAMBbBAN",
     "CbHObHOfKDzQVLUcrSBbGAnLEbTABEBBcEGCNYIHAHAHAHAHAHAHAHAeWbHbAAdLLiGZdCAdIBdZEbRAdQAdIIbWAbr",
     "iRCcDInKThCHhYBCABAIUcHCKFcEHcSHMFeMKbECdAALDbHAcDIOBKBdZXbCJGBGBGIHAHAcIDeWBKFqnSLXDbXDnbA",
     "BeCbLHLFEbAAFABACACAeVPrDBcCGBbFbQFbZATAEDFAfFBBAhICGBGBGBDCHAHJFBMAbAATACAPBObHeTEDDbTCdKA",
     "NCBbUbUeZbDCbXObCDbKIbEEbREbEAbLDObPgCBKFbKDbKDbOHcAKMAPAHACALAPAHACCcALlZIWJIXGAbQAJcQGBBA",
     "bSACCBBXAcUHJbVTACEbHCbBEBcLcEDUBbYACEIADAbDBDDKGJGcMbFbNDMIcCCbDBbBEbAGELHdBcVcCbZMbZGbUHK",
     "FbMCbDHChZbFAbQADBCPDcCbSHbQVbAbLbCTXIdADbKIcQJBBZGKFcBASHbNIdSAUKSAbVcJHABAEAPALFcHEKFEAIB",
     "CBWAHACAFAKBCBDBBFBEHBHCFKKABBBAbMAKABBBAEAKACHCbCdOAFbDcUHKgJcCBbMbHcRKKFNScGFKFUbBbBBPDXh",
     "CcIdVdFLIBBBIACAbEACBMIKcRIBbUBLbAcUHdFMcVGKgZbINKFJAbTAOJbDCbGBWAOcUHACAbSCBACAJHKFGACAbLA",
     "CAGGKlXZGRAbPCbDdGBObYMbjNdXeHAFKhOdxJdVMbqSJfxREwLkdCcGcoRvXGbFAKDdDAKFbEBGJcSJKAHAVETqPcG",
     "hPdNdWcXDcFGRcLFKCNjcAHbvQbOKnfQEAHACAlFOBbCDBBNEHpGdkTeDENCJGKBIfvFjQFqUcXbUBXIeMcHjMJbNBh",
     "MUcSeRULULdJIZfEdHAcTACBBBCBEAMABAHAcNAEBIAHAbCAEAFABCHAnCBlGBbbAOFAPbqLbFFGiEHARBHACAFEcKb",
     "GBeHbTCOBKDCmHbFQcGEBrVbQiFbRDBsLHAEACAPAhPBQbOcYDKDCbeEcQcXcJhLEAbBACABBBAKAEABABFBDBABABA",
     "DACABBBABABABABACABBEAHAEAEABAKAREDAFARbZCkJbSDdWLPBPAPAbLJgScDbDMbSDJGCNGfXblWDRCNCePDdRFM",
     "DBOMDcEHKFbOHbEBMDCcJnCLOBNCKEcEGPBLFJGfRAdYbnPclfCbFgdUFiOBinQNlbLOxYdqVuWcfXhhZEgfGbomxKB",
     "bDdSeXjGdsfNdsyOBdsyOB"]),
  (["co", "privateuse"],
    ["dgvOjmDcahxOdsyNCdsyN"]),
  (["ll", "lowercaseletter"],
    ["dTZcGAbPXBHBABABABABABABABABABABABABABABABABABABABABABABABABABABABBBABABABABABABABBBABABABA",
     "BABABABABABABABABABABABABABABABABABABACABABCCABACADBEACADCCACABABACABBBACADABACBCCGACACABAB",
     "ABABABABABABBBABABABABABABABABBCABADABABABABABABABABABABABABABABABABABABABABABABABABABABABA",
     "BABGCACBBAEABABABABcQBbAhLABADADCSAbBbIBBDCBABABABABABABABABABABABEBACACBbZbVBABABABABABABA",
     "BABABABABABABABABABAJABABABABABABABABABABABABABABABABABABABABABABABABABABACABABABABABABBBAB",
     "ABABABABABABABABABABABABABABABABABABABABABABABABABABABABABABABABABABABABABABABABABABABABABA",
     "BAbWbOehBbQCCbdGFdfUIBAeNbRcLMBbHdYABABABABABABABABABABABABABABABABABABABABABABABABABABABAB",
     "ABABABABABABABABABABABABABABABABABABABABABABABABABABABABABABABABABABABABABABABABABABABABABA",
     "BIBABABABABABABABABABABABABABABABABABABABABABABABABABABABABABABABABABABABABABABABABABABABAB",
     "ABABABABIIFKHIHIFKHIHINCHIHIHIEBBGADCBBIDCBIHKCBBkOADBDAbBAEAEACBIDEAcBAebBbVBADBBABABAEABB",
     "BFFABABABABABABABABABABABABABABABABABABABABABABABABABABABABABABABABABABABABABABABABABABABAB",
     "ABABABABABBHABAEAMbLBAFAbtwDABABABABABABABABABABABABABABABABABABABABABABATABABABABABABABABA",
     "BABABABABAfFABABABABABABCBABABABABABABABABABABABABABABABABABABABABABABABABABABABABABABABHBA",
     "BACABABABABAEABACABCBABABABABABABABABABAFAFABABABABABABABAEABACADABABABABABAbAADAbfPbQFIHdB",
     "beaIGMEboZZbvHbNfGbJfZKBOBGBBcrBbYeVVegObFbgjWbFbmmKZbAGBRbAZbADBABGBKbAZbAZbAZbAZbAZbAZbAZ",
     "bAZbAbBbCYBFbAYBFbAYBFbAYBFbAYBFBAcsYJBTGFduDbH"]),
  (["lm", "modifierletter"],
    ["baMRELOEHABAfDAFAsKAiWAgIBkJBEAbFAJADAgEAgLAbvOAeXAvTAcpMAeDAxNArWFgScKNAbIbKbaNANAQMemXBjH",
     "AhJAsBAbREFAdTBdPCbqbUAbwCFkKAeKAbCBeRIdCAXAeBCDBsBAWAfHAeEAVBdZDJAbfvIAbTBczOFBbPBIccXAbGA",
     "bjnSDtOCbOBvEMcMBBAygQDBGBBsgNcJhTGbkFAbrBA"]),
  (["lo", "otherletter"],
    ["gOAPAjWAEDiAAbfVbAEDbTbFBJbJBBdUBAYBKCCAQABbDbDdKLAYbGVVbQYHKFXBFRbOcHcBDASAHJQOEHCBCVBGBAD",
     "DDAQANBBCOBKAIFEBCVBGBBBBBBbFDBATCQIBCBVBGBBBEDASAPBXALHCBCVBGBBBEDAbEBBCPARABFDCBDDBBABBDB",
     "DCDLWAcAHBCBWBPDAbACCACBbEAEHBCBWBJBEDAbFBBBPBRIBCBbOCAQAFCICYFFRDXBIBACGcGbVBBMFcHBBABEBXB",
     "ABJBBJACEXDbGAcLHBbJbBEeLbQUAQFEDDADBHCEMMAeJmQBDCGBABDCbOBDCbGBDCGBABDCOBcEBDCcObLPeJxVCQB",
     "ZFcWGHHRNSOROMBCPbZbOAcPbIBcAHECbHBAFcRKbEbXbDCELbREZcCWJcAgUbURHcCbDNBKbRbAbJbPCKbDeJDBFBB",
     "DAbpQDenVcDYWJGBGBGBGBGBGBGBGvFAcBAEdHIABdLEAFbQBdPRbFbWPtSjtNcMbfcEBbrYcPbNIkHEPKBcOAbXcRg",
     "NAdZADGBCBDBWbDbZObXcKFDABBLbBKWZbCHbUbTECIKEBbOXCBHUPBFDADbXBADBCECABAYBDKHAOFCFCFJGBGfPbI",
     "bDqnRMWEbWmnCoBCeBcPABJBMBEBABBBBBeDbHnYScLCcBbOLeMEBfEeBJBbSCbEDFCFCFCCbJLBZBSBBBOCNbIeSoZ",
     "bCDbWbVbFNTBHGbLKbDCbJEHeYcZdUbNIbZdObZMlYJVKHfWFCABbRBBDACWKWJbEcNSBBKVKZcScDGBcMAPDBCBbCb",
     "QbCDbCbJHBbBbBcBKVKSNReGcUhBbJbMDBAlSbPGBQCcHbCKAIVbQRbUUbBWMcAcFBCANbSbGYbAbJbDACAIbIDAMbV",
     "ODVABAbJRBYTBcLGBABDBOBJHbUbMHCBCVBGBBBEDASAMEbEJBACABbLBAZABAbScASDUCbEbVUBBAhCbUbPDbKbVUA",
     "cHbQNAcTbAbLGhDbRiDHCACHBBBXPABAdQHCbMQABAbCAKbNHAVALbTTAScUhRbGbFIBbKRAbXbDeIGBBBbLVAZFBBB",
     "bFOAmPSPABMBbHeUAdBbjLiWhNdxKdSPbpFRFZfxQFwKkdDbDcpUvWHbERdARbDSbVbZUFSqTbNpPcWFAgTjbZIbvPb",
     "PJngHlEPAbDCCAODIpFdkUeCFMDIHJnbCAtHbSbHAmJbDSbRsQbAiVbDCAtBGBDBBBOBhObzNDBbABBBACABJBDBABA",
     "GAEABABABCBBBACABABABABABBBACDBGBDBDBABJBQFCBEBQgoAclfBbGgdTGiNCinPOlbKPxXdqWuVcfYhhYFgfF"]),
  (["lt", "titlecaseletter"],
    ["rLACACAbMAlfHHIHIHMAPAbVA"]),
  (["lu", "uppercaseletter"],
    ["cNZdXWBGbHABABABABABABABABABABABABABABABABABABABABABABABABABABABACABABABABABABABACABABABABA",
     "BABABABABABABABABABABABABABABABABABABBBABADBBABBBCCDBBBCDBBBBABABBBACABBBCBABBDAHACACACABAB",
     "ABABABABABACABABABABABABABABACACABCBABABABABABABABABABABABABABABABABABABABABABABABABABABABA",
     "BAHBBBCABDBABABABAlDABADAIAGABCBABBBQBIbJACCDABABABABABABABABABABABAFACABBCbYbWABABABABABAB",
     "ABABABABABABABABABABAJABABABABABABABABABABABABABABABABABABABABABABABABABABABBBABABABABABACA",
     "BABABABABABABABABABABABABABABABABABABABABABABABABABABABABABABABABABABABABABABABABABABABABAB",
     "ABACbLehDbLBAFAbbUdHdgLAGbQCCmIABABABABABABABABABABABABABABABABABABABABABABABABABABABABABAB",
     "ABABABABABABABABABABABABABABABABABABABABABABABABABABABABABABABABABABABABABABABABABABABABAJA",
     "BABABABABABABABABABABABABABABABABABABABABABABABABABABABABABABABABABABABABABABABABABABABABAB",
     "ABABAJHIFKHIHIFLABABABAIHcUDMDMDMELDkCAEADCCCCADEGABABABDCDKBFAcJAdzGbVbWABCCABABABDBACAICB",
     "ABABABABABABABABABABABABABABABABABABABABABABABABABABABABABABABABABABABABABABABABABABABABABA",
     "BABABAIABAEAbtyJABABABABABABABABABABABABABABABABABABABABABABATABABABABABABABABABABABABABAfF",
     "ABABABABABABADABABABABABABABABABABABABABABABABABABABABABABABABABABABABABABAKABABBBABABABAEA",
     "BACABADABABABABABABABABABABEBEBABABABABABABABDBABBDAFABABABAYAbhaHZbuZbNfGbJgAKBOBGBBcqCbYg",
     "BVegObFbgjWbFbmmQZbAZbAZbAABBCACBCDBHbAZbABBDCHBGbBBBDBEBADGbBZbAZbAZbAZbAZbAZbEYbHYbHYbHYb",
     "HYbHAgnLbH"]),
  (["mc", "spacingmark"],
    ["dkTAcDACCIDBBbYBcGCGBCBKAbRAcGCcOAcGCIABBcBBcGABAGBCBKAdYBBBDCBCKAbPCcJDcJBcGABECBBBJBbCAOB",
     "cGCFCBCKAbQBcXCGHSBmSBcLAgPBEAGACBZBKCCGVBCFCAKCclSAbEAeZAHHBBnIDCCEBBFiQBcGABAJABBIFfPAbWA",
     "FABEBBcJAbEAEBCAcIACCBADBbWHIBgPAVAhhEBbtlBBCAdKBbYPfMBbVAbWBEBCCeGBCBYAbTABAeFACBFAjDBBBBB",
     "BAblxJABAeXAbTCEBeLAYBcHAbWCJBNAdPCDBBAgOCbFBcGBBDCBCCJAKBdGCHACABDBBBAdXCIBDAeCCGABDCAjDCG",
     "DCAeJCIBBAeFABBGAdZABBEAkBCJAjNFBBEACABAfMCIDEAdGAbDBcKApRAOAeCAHACAiFEEBBAnMBMAbWBIBBAyyYC",
     "fjGcCeABbkxNBGF"]),
  (["me", "enclosingmark"],
    ["bsQBikQAciGDBCbyoXC"]),
  (["mn", "nonspacingmark"],
    ["bdOeHkPEkFbSBABBBBBAcUKbWUQAdXGCFCBBDbJAbEbAdNKcGIJAYDBIBCBEbRCcHIbQXBbFcDABAEHEADGKBbDAcGA",
     "EDIAUBbAACBcFAEBEBCCDAbEBDALBcFAEEBBEAUBWFBAcGACABDIAHBLBbEAcJAMAbYADAcDABCFCBDHBLBbDAcGACA",
     "GAFBUBbCBcFBEDIAUBbDAcUAHCBAdMACGMHdUACILGcVBbBABABAcDNBEBBFKBbJJAdYDBFBBCBZBECQDNACBGAPAbb",
     "BCbkKCbDBbEBbEBcMBBGIACKJAbTCBAeNBbIAeOCEBJAGCiLBCAcGABGBABACHGJCAbWNBPbXDbWABEBAFAbOIMBbGD",
     "CBBCcEABBDABCcGHCBfWCBMBGEAGADBhQcLbbSMEADLeoCCfLAdSbFvIDeDBbsqEAEJbGBdCBkMADAEAZBFAfVBbARN",
     "AbMHZKbUCbWACDCBbNAcPFCBCBMAIAbVAbZABCCBFBBAbQBIAjEACAEAbdzSAbcJPQPblLAiSAfTEcmGCBBFDbOCEAg",
     "JBwBDcNEmFBdBDcSKbXDeTAcCObPACBKCbXDCBHAcJCbKEBHcKAMBcAIKDCAdRCCABBGACAgBADHVBcFBDAbLGDEcSF",
     "NABABAOBdHHCCBAXAdGFBAEBBBjEDGBBBbBBdHHCABBeCABACFBAdXABACDBEjZIBBjWBBAEAfODCBEAbGJbOFCDIAJ",
     "FCCbUMBBpQGBFBAdEVCGBBBBeSFDABBBGBAcUBDABAnJBLBcAEFABAXAhxTAGOqyYLDCdsAEcHGboIAcLDdDAbdbKBg",
     "yZbTCWuYCRHCGbEDfSCcyDcCEbXIAOAWEBOcaIGBQCGBBBEdWAgEGoLAcJDtODjUBbcIGeFGbtciVjF"]),
  (["nd", "decimalnumber", "digit"],
    ["bWJciOJfEJhQJpWJeOJeOJeOJeOJeOJeOJeOJeOJeOJdSJeOJcSJkSJcSJctQJbMJlOJeYJgKJGJhAJdIJfEJGJcaeO",
     "JbaCJbMJhQJWJdIJpQJbfmCJccKJdfYJGJbeQJeYJcIJfOJkSJnEJeOJoKJdYJGTcYJqGJdYJzMJdIJjMJcSJqGJyyG",
     "JdmCJdIJfEJuOJbkdYJecQbXdnCJqGJtIJjNJbgVJhbAJ"]),
  (["nl", "letternumber"],
    ["irUCdyTbICDfmSAZIOCbsyLJbifGcArSAIAfEEmeSeG"]),
  (["no", "othernumber"],
    ["gWBFACCdmRFoMFeQCfDGiJGRIqRJbpLTbrVJsMAcmVADFGJhQPbPAbbYcHdAVyGbDcbHAbtCDfIJbEHBObGJbNObsmI",
     "FbhqNbScNDRBnDbAbKDbzGHZGbNIcXEWFgEBCPCbTcMIcABbECcXEeAHYHbPGmSFnObEgCJbQDeIGfEToPTbzXBqOIb",
     "hNSbgTUbcpQGbeSWblyFTMTeEYibUIbjTcGBCBDcYbSBOblAM"]),
  (["pc", "connectorpunctuation"],
    ["dRAmbVBTAdgaOBYCjFA"]),
  (["pd", "dashpunctuation"],
    ["bTAcaUAbZAfkJAbnPAdbDFfhXACAbFBEAbCArEATAeHAczwABbLAKAgNAflOAmGA"]),
  (["pe", "closepunctuation"],
    ["bPAbZAbFAfpDABAcuOAdrDAcDAPAyKABAbEAbpUABABABABABABAdCAbGABABABABApOABABABABABABABABABABAcM",
     "ABAbHAboVABABABAbSABABABAqMABABABABADABABABACBczrQAiJAbDABABABABABABABADARABABAgOAbZAbFACAC",
     "A"]),
  (["pf", "finalpunctuation"],
    ["hFAlwVADAbCAffSABAEACAPADA"]),
  (["pi", "initialpunctuation"],
    ["gPAlxKACBCAZAffSABAEACAPADA"]),
  (["po", "otherpunctuation"],
    ["bHCBCCABABBKBDBbBAcQAFAOBHAbbAAIArYFbPAcCACACAbSBUBBBNABCcWDdYAbRNiZCcCObFAkBBKAfKAeQAeRApA",
     "AMAoDAdMAKBgMOBAeIAcWEEBeHFgPAxOIbdTAeUCcTBgBCBCbLFBDmBBiIBeYGBFgEBKGbCCeUDcHEcKBcMHLAbgCBI",
     "HIICDCCDKBABJeuCDBBeIAfNBECCACIBBBACBKEBJCDBABMCCqMCcFAhHAbryGBkJCdVAKAeLFoQDdIBbOCBAbXBbVA",
     "dTMQBeUDeWBQBjPAbfcUGCAWAUBCDDCBDHCGABBfTCBCCABABBKBDBbBAbKACBpUCzSAbWApYAbcPAhRAbFAkMIbMAe",
     "IGcOGdLDbkQEbSDhHGeFBBDeWDbWBdBDEANABCdKFeDAlMBBBeKEKBBAeAAjQWeBCbCMcYAfACjSAkECfZAdOHdFCBE",
     "dPJiHAdREbQByVBcWMgTAbrSEejCBwdVBfDAcNEIAvGClJDmPAbdbOAliLEeiTAbhEB"]),
  (["ps", "openpunctuation"],
    ["bOAbYAbFAfpEABAcuOAdpMADAbMAcDAPAyKABAbEAbpUABABABABABABAdCAbGABABABABApOABABABABABABABABAB",
     "ABAcMABAbHAboVABABABAZASABABABAqMABABABABADABABABACAczrTAiHAbDABABABABABABABADARABABAgOAbYA",
     "bFADACA"]),
  (["sc", "currencysymbol"],
    ["bKAeVDbwJAeTAtEBtEBHAjLAkDAwJAdqPAdiIbGbzhVAbgmLAeEAfYAiLBDBmcSDcvxEAdrKA"]),
  (["sk", "modifiersymbol"],
    ["dQABAcTAGAEADAuBDMNFGBABQeNAOBbxIAiuMABCLCNCNCNBghOBbsvRWJBdZBblOAOBbekKQbiHABAgGAdolJE"]),
  (["sm", "mathsymbol"],
    ["bRAQCcJABAbTAEAbLAbFAbdMAuHCjyHANAbNCNCfJAbNEGAcQEFBEACACAHAbFBCABAbFkHbGBdMAbEYbOFsBAJAcCH",
     "eHAmYECbEKPjWfAWcKEbFCjXbWUCFdasQAbfSABCgIAQCcJABAfBAGDfeFBcyeZAZAbFAZAbFAZAbFAZAbFAZAiuEB"]),
  (["so", "othersymbol"],
    ["gKACAEABAblPAkGBeXBhYAKATBjNAtVAoJAfAFBAfCAhZAbPApBCPABCCFUABABAfDHBFBBFDhPBbcYJbbVAbbUAgBb",
     "HnPJJIccHBBDBBKABBGFBABABAEALBOABBBAcGBJECDBBBBBGBbECBBABbEkIHETCGCdCBbDZbNGcTWKdDcZWhABIBc",
     "BIeGBjNbSbRcMjVtSbVVBGbMCbFBeAiVFnTBbUZBdKMiFbAPEANBMAVBGBmYBEJbGbLJAQbELbDIAPbFKbMPmHjtOcL",
     "bguIcCbhHDKBBAwBCbfjAPeXAbTCsQADAEBNBmBIcFQCCBMDAbVbSclUBwTAesSAdgNHEQbcnIDFAbeuWAfvNjFQqTg",
     "AeLcIjLKbMCcHFCWBHbDEcIVcNDAhEdIbtXtRcDDbYHBNBBcoUAehWAeZAbbTbREdVMOCOBOBbKXgEcEbCNbREIHBOF",
     "fYjQFbbZEQDMDeOEdQGLEAPLEcDIJGbNIbDCLEBcKnBMNCMDJFcDHOCKGIHfQBdN"]),
  (["zl", "lineseparator"],
    ["meQA"]),
  (["zp", "paragraphseparator"],
    ["meRA"]),
  (["zs", "spaceseparator"],
    ["bGAeXAihJAdpNKbKAbVAfxWA"])]

end FormRules.Unicode.Tables
