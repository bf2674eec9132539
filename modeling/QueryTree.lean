import QueryTree.Kind
import QueryTree.Unicode.Alphabetic
import QueryTree.Unicode.Numeric
import QueryTree.Unicode.Uppercase
import QueryTree.Unicode.Blank
import QueryTree.Unicode.Lowercase
import QueryTree.Binary64.Shortest
import QueryTree.Json.Basic
import QueryTree.Json.Printer
import QueryTree.Json.Reader
import QueryTree.Uuid
import QueryTree.Timestamp
import QueryTree.Value
import QueryTree.Operator
import QueryTree.Tree
import QueryTree.Node
import QueryTree.Tree.OfJson
import QueryTree.Sql.Compile
import QueryTree.Substitution
import QueryTree.Pipeline
import QueryTree.Expression
import QueryTree.Query.Select
import QueryTree.Query.Insert
import QueryTree.Query.Update
import QueryTree.Query.Delete
import QueryTree.Definition
import QueryTree.Script
import QueryTree.Config
import QueryTree.CommandLine.Session
import QueryTree.Main
import QueryTree.Proofs.Transformer.Run
import QueryTree.Proofs.Qualification.Lexical
import QueryTree.Proofs.Qualification.Reuse
import QueryTree.Proofs.Tree.Values
import QueryTree.Proofs.Sql.Parameters
import QueryTree.Proofs.Sql.Replacement
import QueryTree.Proofs.Sql.Erasure
import QueryTree.Proofs.Tree.Opening
import QueryTree.Proofs.Sql.Delimiters
import QueryTree.Proofs.Qualification.Idempotence
import QueryTree.Proofs.Qualification.Prefixes
import QueryTree.Proofs.Json.Number
import QueryTree.Proofs.Json.Quoted
import QueryTree.Proofs.Json.Text
import QueryTree.Proofs.Json.Sorting
import QueryTree.Proofs.Tree.PlainData
import QueryTree.Proofs.Tree.RoundTrip
import QueryTree.Proofs.Transformer.Sharing
import QueryTree.Proofs.Sql.Balance
import QueryTree.Proofs.Transformer.Order
import QueryTree.Proofs.Qualification.Positions
import QueryTree.Proofs.Qualification.Aliases
import QueryTree.Proofs.Transformer.Leaves
import QueryTree.Proofs.Qualification.Schemas
import QueryTree.Proofs.Sql.SetOperations
import QueryTree.Proofs.Sql.Filters
import QueryTree.Proofs.Qualification.Additions
import QueryTree.Proofs.Sql.Chains
import QueryTree.Proofs.Tree.UnknownKinds
import QueryTree.Proofs.Sql.Negation
import QueryTree.Proofs.Sql.Quotation
import QueryTree.Proofs.Sql.Splicing
import QueryTree.Proofs.Timestamp
import QueryTree.Proofs.Tree.Classification
import QueryTree.Proofs.Sql.Writer
import QueryTree.Proofs.Sql.Fragments
import QueryTree.Proofs.Tree.Dotted
import QueryTree.Proofs.Tree.Loading
import QueryTree.Proofs.Transformer.RawText
