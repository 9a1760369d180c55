import LspClient.Cli.Run
import LspClient.Client.Uuid
import LspClient.Main
import LspClient.Proofs.Cli.Placement
import LspClient.Proofs.Cli.Report
import LspClient.Proofs.Client.Correlation
import LspClient.Proofs.Client.Endpoint
import LspClient.Proofs.Client.Envelope
import LspClient.Proofs.Client.ErrorStatus
import LspClient.Proofs.Client.Ids
import LspClient.Proofs.Client.Refusal
import LspClient.Proofs.Client.Truncation
import LspClient.Proofs.Client.Verdict
import LspClient.Proofs.Message.Recognition
import LspClient.Proofs.Payload.Nulls
import LspClient.Proofs.Payload.Types
import LspClient.Proofs.Transport.Answering
import LspClient.Proofs.Transport.Chunking
import LspClient.Proofs.Transport.Deadline
import LspClient.Proofs.Transport.Header
import LspClient.Proofs.Transport.Lines
import LspClient.Transport.Replay
