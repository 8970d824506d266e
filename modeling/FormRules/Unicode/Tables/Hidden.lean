/-!
# Hidden characters

The characters that a quoted text gives by number, by version 17.0 of the
standard: they leave no mark of their own, are ignored, or combine with the
character before them.
-/

namespace FormRules.Unicode.Tables

/-- The encoded ranges of the hidden characters. -/
def hidden : List String :=
  ["AbFdRbHMAwWeHIBGDHABAUAiQGgKAbMBbYBDbTBABBBBBIbBDGQKKBAbUUQAdXHBFCBBDbGBBAbEbCdLKBNbRIHCYDBIB",
   "CBGPAZEBALEbGPbQcEcDABAEHEADGKBbDACAIBCBWAHABCECBACFCBCABMCADDYEBAGDCBWAHACACACDDXEABGKBDABLB",
   "AJADAWAHACAFCEHBACCBOCDMGBHCAIBCBWAHACAFCBBBFCBCOCADDSKBAGCDAECCABACCCCDCMEBACCDADCBUVFDAIADA",
   "XAQCBCESDACBCDKGKALADAXAKAFCCBBACWDACDKADNLADAbPBBACEDADACDDAKDbABCASCYAJABBHICFHGKBDLbWACKIH",
   "NbKCABAFAYABAKACIBBFABIKBEbFYBbBABABAOAbKRBEBBFbWIAGANbKbTDBFBBCBZBECQDNACBGAPAbOABEBBfNBiYAE",
   "BHABAEBbPAEBbHAEBHABAEBPAcFAEBcPEbDCbAFdIBGByQAbCCdLGSMTCCISNNADOcABBGIACKJCKFKFLEKFdLGFBbIAB",
   "EcSJbFDEBDDCAGGBCbQBFKbSDbAFLCcFBCCcEABIBACHGMKFKFOdHbWJECIAbDIMBbGDCFcEABBDABMbWHCEPCcKEbRBL",
   "KBMBGEAGADBBEhKcLkSBGBbMBGBIABABABAbFBcBAPAOBGATBDAJQYHbVQCBbBANCbIcJfKDzQVLUcrSBoNCCEbTABEBB",
   "cEGCOXIHAHAHAHAHAHAHAHbGdQbHbAAdLLiGZQAbPFQAdIDdXEbRAbZAbQAdIIbWAbriRCcDInKTbVDBJbGBdCBGHiNTR",
   "ADAEAZBFDKFcEHcQJMXNAbMHZKBLbEFbWACDCBCANALDHAZAbPFCBCKDAIABBKBbGAbZABCCBFBBABXRBIKGBGBGIHAHA",
   "cIDeNACAECKFqnSLXDbXDdaUjmDoCBeCbLHLFEBAYAFABACACAzAbFQPKVbJATAEDFAfFDgDAbECGBGBGBDCHAHMCBMAb",
   "AATACAPBObHeTEDDbTCdKANCBbUbTfAbDCbXPbBDbKIbEEbMJbEAbLDObPgCBKFbKDbKDbOHcAKMAPAHACALAPAHACCcA",
   "LlZIWJIXGAbQAJcQGBBAbSACCBBXAcUHJbVTACEbHCbBEbBbLcEDUBbVOEADAbDJJGJGcMbFbLFMIcCCbDBbBEbAGELHd",
   "BcVcCbZMbZGbQLKFbMHYHChZbFAbQCBBCPGHJbMbOHWKJVSDEbLbCTXIBAcCOHDbEACBBLbXDCBCAENZGKIbKEBISHbJA",
   "DKcAIBAIDCAQAUKSAbCCCDGACcKHABAEAPALFbVADMKHCAIBCBWAHACAFCBABAEBCBCCBLHbBKABBBAbMABACOBACCBAD",
   "ACbMcEHCCBAVABADbDbWACFBACABBBBEHKgJbVACFEBBBbBbJbZHCABBEKKFNSbRABACHCFKFUbBbBCBACDBIXhCbVIBB",
   "BdVdFLIBBBIACAYAFACFEADIKcRIBbQHEAEbABJbOFCDIIBFCCbUMBBJMcVGKdIBCBABdJbINKFJAbMNBAGJbDCbGYBGB",
   "BBcWHACAbMUBIKFGACAbLDCABABGKFbSDKjLTBEIPAbKHCCXdHBObYMbjNdXeHAFKhOdxJdVMbpGQGYfxREwLkdCbELDC",
   "KcoRvXGbFAKDdDAKFbEGBJbWGPJKAHAVETqPcGhPdNEZBZbRcXEcEKNcLENFIkxYbObGdSeLmwQEAHACAlFOBbCDBBNEH",
   "pGdkTeDENCJGKBBBBfvJjTCqUFXORdQeMcHjMJbNBcIEDVCGbEDcJUcOCBeRULULdJIZfEdHAcTACBBBCBEAMABAHAcNA",
   "EBIAHAbCAEAFABCHAnCBlGBvQcCEbXIAOAHbrVbFFGkAcKfPbTJHBKDCmHbERbSDKEBrVbCDKiFbEBLDBhJbFADACAHBF",
   "ICiPHAEACAPAhPBJbVcQGBDKDCbeEcQcXcJhLEAbBACABBBAKAEABABFBDBABABADACABBBABABABABACABBEAHAEAEAB",
   "AKAREDAFARbZCkJbSDdWLPBPAPAbLJgScDbDMbSDJGCNGfXblXCRCNCiKFMDBOMDcEHKFbOHbEBMDCNJbMnGHOBNCLCcF",
   "ABDQBMDKGfRAdZbnOclfCbFgmOBioCBlbLOxYdqVuWcfXhhZEmoObzljX"]

end FormRules.Unicode.Tables
