import ShaderCost.Proofs.Report.Lines
import ShaderCost.Report.Data

/-!
The same findings in every form of a report. The document and the short form print the suggestions
of an analysis from one list, the ranking of what the data has in the order of the rules. Each
analysis has its own part in both, and the sign that nothing was found stands there for an analysis
without suggestions and for no other.
-/

namespace ShaderCost.Report

/-- Whether a line of the short form begins with a word in brackets. -/
def bracketed (line : Text) : Bool := "  [".toList.isPrefixOf line

end ShaderCost.Report
