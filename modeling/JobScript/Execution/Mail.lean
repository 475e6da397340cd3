import JobScript.Catalog.Mail
import JobScript.Execution.Outcome

/-!
# Operations on Mail Messages, Carried Out

Unset text reads as empty, among the lines of a list as well.
-/

namespace JobScript

namespace MailOperation

def run (op : MailOperation) (receiver : MailMessage) (arguments : List Value) :
    Except Cause (MailMessage × Result) :=
  let name := op.signature.name
  let string := Arguments.string name arguments 0
  let effect (m : MailMessage) : MailMessage × Result := (m, .nothing)
  let keep (result : Result) : MailMessage × Result := (receiver, result)
  match op with
  | .addBodyLine => do return effect (receiver.addBodyLine (← string))
  | .addBodyLines => do
    let lines ← Arguments.textList name arguments 0
    return effect (receiver.addBodyLines (lines.values.map (·.getD "")))
  | .addCcRecipient => do return effect (receiver.addCcRecipient (← string))
  | .addHeaderLine => do return effect (receiver.addHeaderLine (← string))
  | .addToRecipient => do return effect (receiver.addToRecipient (← string))
  | .assign => do return effect (← Arguments.mailMessage name arguments 0)
  | .clear => .ok (effect receiver.clear)
  | .clearBody => .ok (effect receiver.clearBody)
  | .clearHeader => .ok (effect receiver.clearHeader)
  | .setSender => do return effect (receiver.setSender (← string))
  | .setSubject => do return effect (receiver.setSubject (← string))
  | .bodyLines => .ok (keep (.list receiver.bodyLines))
  | .ccRecipients => .ok (keep (.list receiver.cc))
  | .headerLines => .ok (keep (.list receiver.headerLines))
  | .toRecipients => .ok (keep (.list receiver.to))
  | .header => do return keep (.textOrUnset (receiver.header? (← string)))
  | .sender => .ok (keep (.textOrUnset receiver.sender))
  | .subject => .ok (keep (.textOrUnset receiver.subject))

end MailOperation

end JobScript
