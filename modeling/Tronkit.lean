import Tronkit.Proofs.Abi.Call
import Tronkit.Proofs.Abi.History
import Tronkit.Proofs.Abi.Log
import Tronkit.Proofs.Abi.Standard
import Tronkit.Proofs.Abi.Value
import Tronkit.Proofs.Address.Conversion
import Tronkit.Proofs.Address.Normal
import Tronkit.Proofs.Address.Order
import Tronkit.Proofs.Client.Amount
import Tronkit.Proofs.Client.Answer
import Tronkit.Proofs.Client.ByteResult
import Tronkit.Proofs.Client.CallData
import Tronkit.Proofs.Client.Connection
import Tronkit.Proofs.Client.Descriptor
import Tronkit.Proofs.Client.Endpoint
import Tronkit.Proofs.Client.Envelope
import Tronkit.Proofs.Client.Honest
import Tronkit.Proofs.Client.Logs
import Tronkit.Proofs.Client.Parties
import Tronkit.Proofs.Client.ReadBack
import Tronkit.Proofs.Client.Refusal
import Tronkit.Proofs.Client.Restated
import Tronkit.Proofs.Client.Selector
import Tronkit.Proofs.Client.TokenNumber
import Tronkit.Proofs.Client.Trial
import Tronkit.Proofs.Event.Acceptance
import Tronkit.Proofs.Json.Integer
import Tronkit.Proofs.Model.Stored
import Tronkit.Proofs.Node.Price
import Tronkit.Proofs.Number.Codec
import Tronkit.Proofs.Number.Word
import Tronkit.Traced
