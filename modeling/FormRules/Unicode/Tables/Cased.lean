/-!
# Characters with a case

The characters that have a case, and the characters that do not count when it is
asked whether a word goes on.  As with names, this is version 17.0 of the standard.
-/

namespace FormRules.Unicode.Tables

/-- The encoded ranges of the characters that have a case. -/
def cased : List String :=
  ["cNZGZbVAKAEAFWBbEBhMBDEhZCbIHBbEEdSAbQDCBCDBAGABCBABTBdEBfIIgJBbLJbOefFbLBAFACbQBDzWdHCFdfUKF",
   "bQCCcMhJcMkRCFCbLCFCHBABABABbECcABGBADCBGDDCFEMFCBGeMANAQMdXAEACJBADEGABABABDBFEACDFEEARbFDBb",
   "fLbZcrUiUGDDBMbLBAFAbtwCbTSbDfCdXDDBcYUFBCbfPbQBNGdBbeaIGMEbnTZGZbtTdBdSbJEbJeMKBOBGBBBKBOBGB",
   "BrJACCBbPBIbuZbYNbYdPVKVefIcLbgiQcLbGYCYbmiEdGBcSBBCACBCDBLBABGBcMBDCHBGBbBBDBEBADGBnBCYBYBbE",
   "BYBbEBYBbEBYBbEBYBHcsYJBTGFkBcJdgKcPdaAZGZGZ"]

/-- The encoded ranges of the characters that do not count in a word. -/
def caseIgnorable : List String :=
  ["bNAGALAbJABAcTAEABAEACBtJhJEBEAJBBAjRGhZAFAbXbSBABBBBBAbSALFKKBAbJAKUQAdXHBJBDbHABAbEbAdNKcGK",
   "EACAYXbRCbSAHBFIbPcFcDABAEHEADGKBNAPAcGAEDIAUBbAACBcFAEBEBCCDAbEBDALBcFAEEBBEAUBWFBAcGACABDIA",
   "HBLBbEAcJAMAbYADAcDABCFCBDHBLBbDAcGACAGAFBUBbCBcFBEDIAUBbDAcUAHCBAdMACGLIdUACIJABGcVBbBABABAc",
   "DNBEBBFKBbJJAdYDBFBBCBZBECQDNACBGAPAdQAxKCbkKCbDBbEBbEBcMBBGIACKDAFAbTEbZAcNBbIAeOCEBJAGCiLBC",
   "AcGABGBABACHGJCAbNAIbTCLUDbWABEBAFAbOIMBbGDCBBCcEABBDABCcGHCBcMFdECBMBGEAGADBbYcKNAbIdWrDABCL",
   "CNCNCNBMEIBKACACEbXEBJBANAQMbZbGejRBeJCeVAPAdSbFbVAsBAbKDDEFAdPFdPCbqbUAbwCFkKAdUDBJBAbCDdCBO",
   "bHdAAXCdYDDBIADAEAZBFAfVBbARNAbMHZKbUCbWACDCBRAVBcOFCBCBMAIAbJALAbZABCCBFBBAbBAOBFBBAdWEJCeRA",
   "CAEAbdzSAfRQwBPDAMPbIACAgNAHAGALAbJABAbVAbTBcPAVCtTAiSAfTEbnPFBbPBIwKCBBFDbOCEAgJBwBDbMAbAEBA",
   "mDBYAcAFcSKbXDeTAcCObPACBKCbXDCBCAEAKAbYCbKEBHcKAMBcAIKDCAdRCCABBGACAgBADHVBcFBDAbLGDEcSFNABA",
   "BAOBdHHCCBAXAdGFBAEBBBjEDGBBBbBBdHHCABBeCABACFBAdXABACDBEjZIBBjWBBAEAfODCBEAbGJbOFCDIAJFCCbUM",
   "BBhQABCBAhTGBFBAdEVCGBBBBeSFDABBBGBAcUBDABAcNAkVBLBcAEFABAXAhxDQGOqyYLDCdsAEcHGJDtOCbOBsOAcLQ",
   "cMBBBNBygADBGBBeuGBBDgyUbTCWuYCJPCGbEDfSCcyDcCEbXIAOAWEBOcaIGBQCGBBBEFcJbHAgENoEAcJDtNEjUBjJA",
   "CAHBFAJArWGeFHebFEbsxxPAbEdReYjF"]

end FormRules.Unicode.Tables
