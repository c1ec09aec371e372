import Compliance.Proofs.Files.Walk
import Compliance.Proofs.Project.Rules

/-!
What a rule source loads. The definitions stand in the rule files below each root, in the order of
the names that lead to them, and if anything there is at fault there are none at all.
-/

namespace Compliance

namespace RuleSource

variable {files : FileTree}

end RuleSource

end Compliance
