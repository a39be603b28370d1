import DesignRules.Text.Basic
import DesignRules.Text.Escaped
import DesignRules.Pattern
import DesignRules.Eval
import DesignRules.Model.Basic
import DesignRules.Model.Codebase
import DesignRules.Model.Supertypes
import DesignRules.Model.Element
import DesignRules.Connector
import DesignRules.Verdict
import DesignRules.Predicate
import DesignRules.Provider
import DesignRules.Condition.Object
import DesignRules.Condition.Basic
import DesignRules.Condition.Relation
import DesignRules.Condition.Existence
import DesignRules.Catalogue.Names
import DesignRules.Catalogue.Phrase
import DesignRules.Catalogue.Criterion
import DesignRules.Catalogue.TypeCriterion
import DesignRules.Catalogue.Scoped
import DesignRules.Report.Basic
import DesignRules.Report.Summary
import DesignRules.Rule
import DesignRules.Draft
import DesignRules.Sentence
import DesignRules.Json.Printer
import DesignRules.Json.Reader
import DesignRules.Model.Serial
import DesignRules.Report.Serial
import DesignRules.Inspect
import DesignRules.Toml.Scalar
import DesignRules.Toml.Reader
import DesignRules.Config
import DesignRules.Suite
import DesignRules.Proofs.Pattern.Language
import DesignRules.Proofs.Rule.Findings
import DesignRules.Proofs.Catalogue.Answers
import DesignRules.Proofs.Catalogue.Negation
import DesignRules.Proofs.Catalogue.Filtering
import DesignRules.Proofs.Hierarchy.Reachable
import DesignRules.Proofs.Condition.Joined
import DesignRules.Proofs.Condition.Duality
import DesignRules.Proofs.Sentence.Drafting
import DesignRules.Proofs.Formula.Regrouping
import DesignRules.Proofs.Text.OuterWords
import DesignRules.Proofs.Condition.Families
import DesignRules.Proofs.Condition.Parentheses
import DesignRules.Proofs.Rule.Combined
import DesignRules.Proofs.Catalogue.Named
import DesignRules.Proofs.Codebase.Reordered
import DesignRules.Proofs.Rule.Steady
import DesignRules.Proofs.Catalogue.BuiltIn
import DesignRules.Proofs.Sentence.Refusals
import DesignRules.Proofs.Rule.Discovery
import DesignRules.Proofs.Suite.Checking
import DesignRules.Proofs.Suite.Settings
import DesignRules.Proofs.Catalogue.Implication
import DesignRules.Proofs.Rule.Interchange
import DesignRules.Proofs.Sentence.Relational
import DesignRules.Proofs.Rule.Origins
import DesignRules.Proofs.Catalogue.Namesakes
import DesignRules.Proofs.Json.Lexing
import DesignRules.Proofs.Json.ReadBack
import DesignRules.Proofs.Stored.Models
import DesignRules.Proofs.Stored.Summaries
import DesignRules.Proofs.Codebase.FirstOccurrences
import DesignRules.Proofs.Draft.Histories
import DesignRules.Proofs.Rule.FirstErrors
import DesignRules.Proofs.Rule.Emptiness
import DesignRules.Proofs.Rule.Narrowing
import DesignRules.Proofs.Condition.Lifting
import DesignRules.Proofs.Condition.Sharing
import DesignRules.Proofs.Catalogue.Provided
import DesignRules.Proofs.Catalogue.Offenders
import DesignRules.Proofs.Hierarchy.Conformance
import DesignRules.Proofs.Hierarchy.Growth
import DesignRules.Proofs.Hierarchy.Rounds
import DesignRules.Proofs.Pattern.WholeNames
import DesignRules.Proofs.Model.Building
import DesignRules.Proofs.Pattern.Namespaces
import DesignRules.Proofs.Rule.Asking
import DesignRules.Proofs.Report.Severities
