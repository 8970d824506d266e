/-!
# Characters of names

The letters and the numbers that a name can hold.  Names follow version 17.0 of
the standard, one version after the other tables.
-/

namespace FormRules.Unicode.Tables

/-- The encoded ranges of the alphabetic characters. -/
def nameLetters : List String :=
  ["cNZGZbVAKAEAFWBbEBrPELOEHABAdIAbDRBBCDBAGABCBABTBdEBfIIgJBbLCAGbObNNBABBBBBAIbAEDbDKFcDBGOdXB",
   "HEHECKCCAQbVNdWYbGJBEAFXCSTYHKFXBGHAIbPKLDGGcXBPBCEONSBHCBCVBGBADDDHCBCBBAIAEBBEMBKAECBFEBCVB",
   "GBBBBBBEEEBCBEAHDBARFLCBIBCBVBGBBBEDIBCBBDAPDVDECBHCBCVBGBBBEDHCBCBJBEBBENAQBBFDCBDDBBABBDBDC",
   "DLEEDCBCDAGAbOMBCBWBPDHBCBCIBBCBBCDbCDBHBCBWBJBEDHBCBCIBFCBDNCMMBCBbOCHBCBCBAFDHEWFBCBRDXBIBA",
   "CGIFBABHSBNcFFGGAbZBBABEBXBABSBCCEBAGAODbGAcLHBbJESEPBbJcPcCBACEQcLKDCbLBAFACbQBmUBDCGBABDCbO",
   "BDCbGBDCGBABDCOBcEBDCcObLPQdHCFDxVCQBZFcWDKHTLUMTMMBCBBMbZCSOAEAcPdKHbQFcRKbEBLEIXbDCELbREZcC",
   "bBEcKCTbYAXBLCbXbZBOBHbZbPCDKbRBKOcCWCKbJCKFbQCCbPDBFBBDAFhJTbHLkRCFCbLCFCHBABABABbECcABGBADC",
   "BGDDCFEMFCBGeMANAQMdXAEACJBADEGABABABDBKCDFEEARbObfHbZcrUiUGDDBMbLBAFACcDHAQWJGBGBGBGBGBGBGBG",
   "BbFbVAsBCZIHECEEdHGCBdLBDFbQBdPRbFbWPtSjtNcMbguEcPbTCkIDPKBUbUFHDeIbNICdYCdDUUBbGYbZMcPBAbSFD",
   "ABCKbGFbINbCDbYBLPAQPKEBcCJNSWDcQBABAYCCPCDLFCFCFJGBGBbQBNGeSVqnRMWEbWmnCoBCeBbMGMEFLBMBEBABB",
   "BBBeDbHnYScLCcBbOLeMEBfEbKZGZLdKDFCFCFCCbJLBZBSBBBOCNbIeScRcAkHbCDbWbVbFNbDFbQFbDCbJEHBEbQgBS",
   "bJEbJEbNIbZMKBOBGBBBKBOBGBBDbZMlYJVKHYFBbPBIcRFCABbRBBDACWKWJbEcNSBBKVKZGZbMcDGBcMDBBFHBCBbCb",
   "QbCDbCbJHBbBbBcBKVKSNReGcUcDbYNbYNbNbIbBDAFWjQbPBBDBQFbYCDbCKAIVbQRbUUbBWJcRbREKcEJANYXbYRDIb",
   "IDAJcLBDJBKABAbJRBbHCAGDcKGBABDBOBJHcEXDBHCBCVBGBBBEDHCBCBDAGAFGbCJBACABbLBJBACABDBBDABAbScNB",
   "CBDUCbEcNCBBAhCcBCGZFbIcKBADAcHcBCAcTbACNVGhDcEdZcLbFHCACHBBBbDBBCBCDdPHCbTCFBABBbBbYCJRcTFAS",
   "cUdZHdKbGbFIBbSBGBAbXbDCVBNcVGBBBbRDABBBCBACBYFBBBbKBBBDBAXbRkAWJQBbODCeHAdBbjLdYeGRhNdxKdSPb",
   "pFRFZfxQFwKkdDbUcpDvWHbERdARbDSbVQDbFUFSqQbSiDcLbGYCYbScWEcEHQcMBBAMGJkxXbPbFdTeKmwRDBGBBBlEP",
   "AbDCCAODIpFdkUeCFMDIHJEAiwFdGBcSBBCACBCDBLBABGBcMBDCHBGBbBBDBEBADGBnBCYBYBbEBYBbEBYBbEBYBbEBY",
   "BHcsYbEGFiFGBQCGBBBEFcJbHAeIbSKGQAmJbDSbRsQbBiUbDCAhZbEBVIBiQGBDBBBOBhOcHcPDADAbuIDBbABBBACAB",
   "JBDBABAGAEABABABCBBBACABABABABABBBACDBGBDBDBABJBQFCBEBQyEZGZGZfmKclfBbGgmNCioBClbKPxXdqWuVcfY",
   "hhYFmoN"]

/-- The encoded ranges of the characters of the three categories of numbers. -/
def nameNumbers : List String :=
  ["bWJeQBFACCcdLJfEJhQJpWJeOJEFeEJeOJeOJCFeGMeLJIGdZJeAGHSeFJdSJeOJcSTkIJcSJbbRTbhXCjFJGJWJlOJeY",
   "KgJJGJhAJdIJfEJGJboGADFGJhQbYCEbbYcHdAVyGbDcbHAbdXAZIOCnFDfIJbEHBObGJbNObrsAJhGJmIFfYJbMJhQJW",
   "JdIJpQJbfmCJsZbSMcERBnDbAbKDbDAIAfEEhUJbkGHZGbNIcXEWFgEBCPCbTcMIcABbECcXEeAHYHbPGmSFbWJGJkSbE",
   "gCJbQDeIGfEbDeYJcIJfOJHTjRJnEJeOJoKJdYJGTcYLqESdPJzMJdIbCiTJcSJcCJnUJdYUbpBeGxaFJdmCJdIJfEJBG",
   "uGJkCWnLCbjfLJceWTMTeEYbqRbXdnCJqGJtIJjNJbbOIeYJbeLcGBCBDcYbSBOblAMedFJ"]

end FormRules.Unicode.Tables
