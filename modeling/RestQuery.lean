import RestQuery.Calendar
import RestQuery.Client
import RestQuery.Condition.Clause
import RestQuery.Condition.Coercion
import RestQuery.Condition.Rendering
import RestQuery.Condition.Writing
import RestQuery.Executor
import RestQuery.Fault
import RestQuery.Json.Document
import RestQuery.Json.Notation
import RestQuery.Json.Parser
import RestQuery.Json.Printer
import RestQuery.Json.Record
import RestQuery.Number.Binary
import RestQuery.Number.Decimal
import RestQuery.Number.FloatText
import RestQuery.Number.Scaled
import RestQuery.Number.Shortest
import RestQuery.Proofs.ColumnFilter
import RestQuery.Proofs.ConditionBuilding
import RestQuery.Proofs.ConditionEncoding
import RestQuery.Proofs.ConditionForms
import RestQuery.Proofs.ConditionNodes
import RestQuery.Proofs.ConditionOutline
import RestQuery.Proofs.ConditionReading
import RestQuery.Proofs.ConditionRenderings
import RestQuery.Proofs.Conjunction
import RestQuery.Proofs.ContractFaults
import RestQuery.Proofs.Decoding
import RestQuery.Proofs.Delivery
import RestQuery.Proofs.DistinctKeys
import RestQuery.Proofs.FilterOrder
import RestQuery.Proofs.Fingerprints
import RestQuery.Proofs.FitSteps
import RestQuery.Proofs.HeaderEntries
import RestQuery.Proofs.HeaderHistory
import RestQuery.Proofs.JsonData
import RestQuery.Proofs.JsonReading
import RestQuery.Proofs.JsonRoundTrip
import RestQuery.Proofs.JsonTexts
import RestQuery.Proofs.LowerCase
import RestQuery.Proofs.OperatorExpression
import RestQuery.Proofs.Outcome
import RestQuery.Proofs.PreferenceTokens
import RestQuery.Proofs.PreparedUrl
import RestQuery.Proofs.ProfileHeader
import RestQuery.Proofs.QueryEntries
import RestQuery.Proofs.QueryHistory
import RestQuery.Proofs.ReceivedBody
import RestQuery.Proofs.Refusals
import RestQuery.Proofs.ReplyQueue
import RestQuery.Proofs.RepresentableBodies
import RestQuery.Proofs.ResponseHeaders
import RestQuery.Proofs.ResultShape
import RestQuery.Proofs.RunFrame
import RestQuery.Proofs.SeededHeaders
import RestQuery.Proofs.SentBody
import RestQuery.Proofs.SpansAndRecords
import RestQuery.Proofs.StepParts
import RestQuery.Proofs.StepWrites
import RestQuery.Proofs.Utf8Text
import RestQuery.Proofs.WritableValues
import RestQuery.Request.Basic
import RestQuery.Request.Call
import RestQuery.Request.Filter
import RestQuery.Request.Headers
import RestQuery.Request.Prepared
import RestQuery.Request.Query
import RestQuery.Request.Shape
import RestQuery.Request.Step
import RestQuery.Request.Verb
import RestQuery.Response.Basic
import RestQuery.Response.Refusal
import RestQuery.Session
import RestQuery.Text.Basic
import RestQuery.Text.Blank
import RestQuery.Text.Case
import RestQuery.Text.CaseTable
import RestQuery.Text.Digit
import RestQuery.Text.Form
import RestQuery.Text.Hex
import RestQuery.Text.Point
import RestQuery.Text.Printable
import RestQuery.Text.Quoted
import RestQuery.Text.Ranges
import RestQuery.Text.Utf16
import RestQuery.Text.Utf8
import RestQuery.Trace
import RestQuery.Value.Basic
import RestQuery.Value.Digest
import RestQuery.Value.Equality
import RestQuery.Value.Literal
import RestQuery.Vocabulary
