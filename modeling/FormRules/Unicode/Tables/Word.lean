/-!
# Word characters

Letters, marks, decimal digits, connectors and joiners.
-/

namespace FormRules.Unicode.Tables

/-- The encoded ranges of the word characters. -/
def word : List String :=
  ["bWJHZEABZbVAKAEAFWBbEBrPELOEHABAReMBBCDBAGABCBABTBdEBfIBgQBbLCAGbOIbSBABBBBBAIbAEDbDKFcVEdXBH",
   "CJBSCAQcGCdWOcBEACACbTSbBEKFXBFIcWBeYCJBSBHCBCVBGBADDCICBCDIAEBBECLKABACCBFEBCVBGBBBBBBCABEEB",
   "CCDAHDBAHPLCBIBCBVBGBBBECJBCBCCAPDCJJGBCBHCBCVBGBBBECICBCCHCEBBECJBAQBBFDCBDDBBABBDBDCDLEEDCB",
   "DCAGAOJQMBCBWBPCIBCBDHBBCCACDCJQDBHBCBWBJBECIBCBDHBGBBDCJBCMMBCBbYBCBEFDHECJKFBCBRDXBIBACGDAE",
   "FBABHGJCBNcFFOBJbNBBABEBXBABWCEBABGBJCDbGAXBGJLABABAEJBbJETBRBbJJAcFcVGcZCbLBAFACbQBmUBDCGBAB",
   "DCbOBDCbGBDCGBABDCOBcEBDCcOCCbGPQdHCFDxVCQBZFcWDKHVJVLTMMBCBBMdFDAEBCJbHCBKGdKHbQFcRKbEBLELKb",
   "NCELbREZGJbMbBEcKBbCCKGJNAIbEbXcYDJRIMeLMcDIJDbWCKFbQCCQCBbMFuNCFCbLCFCHBABABABbECcABGBADCBGD",
   "DCFEMFCBGPBbXBTAbCANAQMbZbGRAEACJBADEGABABABDBKCDFEEARbObfHbZcrUiUGIMbLBAFACcDHAPXJGBGBGBGBGB",
   "GBGBGBbFbVAsBCZOBECEEdHCBCCBdLBDFbQBdPRbFbWPtSjtNcMbguEcPbTCkIDbBUbYBJBeKbLICdYCcOCBBABHVcBEA",
   "TbZMcRKJGXDABbWCbJMbCDcMOKGbEBcCJNCJGWDcUYCCPCEKFCFCFJGBGBbQBNGeSBBCJGqnRMWEbWmnCoBCeBbMGMEFL",
   "BMBEBABBBBBeDbHnYScLCcBbOLEPQPDBYCbGEBfETJHZEABZLdKDFCFCFCCbJLBZBSBBBOCNbIeScRcAfGAfAbCDbWPAb",
   "FbFNbDFbQFbDCbJEHBEbQgBCJGbJEbJEbNIbZMKBOBGBBBKBOBGBBDbZMlYJVKHYFBbPBIcRFCABbRBBDACWKWJbEcNSB",
   "BKVKZcScDGBcMDBBFHBCBbCCCEAbGbCDbCbJHBbDZcBKVKSNReGcUcDbYNbYNbNIJGbLDEBWjQbPBBDBQCcDbGKAIbGbF",
   "VbQUbBWJcSbFPJcHHANYHJGcABJEDIbJCAJcQEDBMBAbJRBbKGDcKGBABDBOBJHcGFJGDBHCBCVBGBBBEBJCBCCCAGAFG",
   "CGDELJBACABbLBJBACABDBHNBbDcWFJEDbEcRBAIJgKcBCIXFbIcMDALJbMcEHJGTbCbACOEJGGhDcGdXcVVHCACHBBBb",
   "DBBCIMJcSHCbTCHBBbBcKIAIcVDAScUhRbGPJGIBbSBIPJYbDCVBNcVGBBBbRDABBBIIJGFBBBbKBBBFHJlYWJQBbODEN",
   "KdHAdBbjLdYeGRhNdxKdSPbpFQVKfxQFwKkdDcFcoSvWHbEBJGdABJGbDCELcCJDMJJUFSqQbSDJhQcLeYcWEcEHQcMBB",
   "BLBOjbZIbvPbPJnfRDBGBBBlEPAbDCCAODIpFdkUeCFMDIHJDBgeRJtYbTCWuWEDFIHCGbEDfSCrBdGBcSBBCACBCDBLB",
   "ABGBcMBDCHBGBbBBDBEBADGBnBCYBYBbEBYBbEBYBbEBYBbEBYBHCbXtScCEbXIAOAWEBObqMbEGFiFGBQCGBBBEFcJbH",
   "AeIbSDNCJEAmJbERcFsCbPiGbQsRGBDBBBOBhOLGbPcXEJbtUDBbABBBACABJBDBABAGAEABABABCBBBACABABABABABB",
   "BACDBGBDBDBABJBQFCBEBQyEZGZGZdyKJbnQclfBbGgdTGiNCinPOlbKPxXdqWuVcfYhhYFgfFbonhGjF"]

end FormRules.Unicode.Tables
