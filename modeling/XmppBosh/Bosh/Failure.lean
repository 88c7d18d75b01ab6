/-!
# Failures of an exchange

Why a request that was handed over has no answer.
-/

namespace XmppBosh.Bosh

/-- Why an exchange failed. -/
inductive Failure where
  /-- No answer came within the request's time. -/
  | timeout
  /-- The address to post to is none. -/
  | badAddress
  /-- Any other failure, in the words of whoever reports it. -/
  | other (text : String)
  deriving DecidableEq

def Failure.message : Failure → String
  | timeout => "request timed out"
  | badAddress => "HTTP error: builder error: relative URL without a base"
  | other text => text

end XmppBosh.Bosh
