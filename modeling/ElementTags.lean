import ElementTags.Attribute.Describe
import ElementTags.Channel.Nesting
import ElementTags.Session
import ElementTags.Proofs.Composition
import ElementTags.Proofs.FaultPosition
import ElementTags.Proofs.Reprinting
import ElementTags.Proofs.InertText
import ElementTags.Proofs.Serialization
import ElementTags.Proofs.Calls
import ElementTags.Proofs.Compilation
import ElementTags.Proofs.Datum
import ElementTags.Proofs.Denotation
import ElementTags.Proofs.Filtering
import ElementTags.Proofs.Marking
import ElementTags.Proofs.Refusal
import ElementTags.Proofs.Recovery
import ElementTags.Proofs.Rereading
import ElementTags.Proofs.Drafting
import ElementTags.Proofs.Respacing
import ElementTags.Proofs.Providers
import ElementTags.Proofs.Agreement
import ElementTags.Proofs.ValuePosition
import ElementTags.Proofs.Chaining
import ElementTags.Proofs.ReadBack
import ElementTags.Proofs.Sessions
import ElementTags.Proofs.Precedence
import ElementTags.Proofs.KeptItems
import ElementTags.Proofs.Tiling
import ElementTags.Proofs.Carets
import ElementTags.Proofs.Accounting
import ElementTags.Proofs.RenderTrace
import ElementTags.Proofs.BodyCalls
import ElementTags.Proofs.Chronicle
import ElementTags.Proofs.Histories
import ElementTags.Proofs.Replacement
import ElementTags.Proofs.Advance
