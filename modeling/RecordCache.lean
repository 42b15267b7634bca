import RecordCache.Proofs.Adaptation
import RecordCache.Proofs.Addressing
import RecordCache.Proofs.Closing
import RecordCache.Proofs.Completion
import RecordCache.Proofs.Cycles
import RecordCache.Proofs.FailedReads
import RecordCache.Proofs.HitEffects
import RecordCache.Proofs.HitPages
import RecordCache.Proofs.IntegrityCheck
import RecordCache.Proofs.Numerals
import RecordCache.Proofs.Opening
import RecordCache.Proofs.OverrideOrder
import RecordCache.Proofs.Records
import RecordCache.Proofs.ReferenceBits
import RecordCache.Proofs.Sampling
import RecordCache.Proofs.Scans
import RecordCache.Proofs.SharedLoad
import RecordCache.Proofs.Surgery
import RecordCache.Proofs.TierBounds
import RecordCache.Proofs.Watermarks
import RecordCache.Report.Format
import RecordCache.Settings.Files
