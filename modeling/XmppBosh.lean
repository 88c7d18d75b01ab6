import XmppBosh.Client.Schedule
import XmppBosh.Proofs.Bosh.Outcome
import XmppBosh.Proofs.Bosh.Reply
import XmppBosh.Proofs.Bosh.Step
import XmppBosh.Proofs.Bosh.Traffic
import XmppBosh.Proofs.Bosh.Isolation
import XmppBosh.Proofs.Bosh.Retry
import XmppBosh.Proofs.Bosh.Accounts
import XmppBosh.Proofs.Bosh.Progress
import XmppBosh.Proofs.Bosh.Silence
import XmppBosh.Proofs.Bosh.Stanzas
import XmppBosh.Proofs.Bosh.Conservation
import XmppBosh.Proofs.Bosh.Drafts
import XmppBosh.Proofs.Bosh.Origins
import XmppBosh.Proofs.Bosh.Numbering
import XmppBosh.Proofs.Bosh.Naming
import XmppBosh.Proofs.Bosh.Promptness
import XmppBosh.Proofs.Bosh.Quiet
import XmppBosh.Proofs.Bosh.Handover
import XmppBosh.Proofs.Bosh.Pause
import XmppBosh.Proofs.Bosh.Resumption
import XmppBosh.Proofs.Bosh.Leftovers
import XmppBosh.Proofs.Bosh.Admission
import XmppBosh.Proofs.Bosh.Capacity
import XmppBosh.Proofs.Bosh.Writing
import XmppBosh.Proofs.Text.Base64
import XmppBosh.Proofs.Text.Decimal
import XmppBosh.Proofs.Sasl.Messages
import XmppBosh.Proofs.Sasl.Exchange
import XmppBosh.Proofs.Sasl.Attempt
import XmppBosh.Proofs.Bosh.Gate
import XmppBosh.Proofs.Sasl.Agreement
import XmppBosh.Proofs.Sasl.Results
import XmppBosh.Proofs.Bosh.Announcement
import XmppBosh.Proofs.Client.Reports
import XmppBosh.Proofs.Client.Login
import XmppBosh.Proofs.Bosh.Commuting
import XmppBosh.Proofs.Bosh.Budget
import XmppBosh.Proofs.Bosh.Farewell
import XmppBosh.Proofs.Bosh.Replacement
import XmppBosh.Proofs.Bosh.Closing
import XmppBosh.Proofs.Bosh.Gathering
import XmppBosh.Proofs.Client.Recording
import XmppBosh.Proofs.Client.Endings
import XmppBosh.Proofs.Client.Gathering
import XmppBosh.Proofs.Sasl.Rejection
import XmppBosh.Proofs.Text.Spelling
import XmppBosh.Proofs.Sasl.Acceptance
import XmppBosh.Proofs.Client.Selection
import XmppBosh.Proofs.Listeners.Delivery
import XmppBosh.Proofs.Listeners.Nesting
import XmppBosh.Proofs.Client.Telling
import XmppBosh.Proofs.Client.Evolution
import XmppBosh.Proofs.Client.Unfolding
import XmppBosh.Proofs.Client.Watching
import XmppBosh.Proofs.Sasl.Payloads
import XmppBosh.Proofs.Sasl.Frames
import XmppBosh.Proofs.Bosh.Reading
import XmppBosh.Proofs.Bosh.Posting
import XmppBosh.Proofs.Text.Pieces
import XmppBosh.Proofs.Sasl.Separation
