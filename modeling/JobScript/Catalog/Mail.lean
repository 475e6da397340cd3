import JobScript.Catalog.Signature

/-!
# Operations on Mail Sessions and Mail Messages
-/

namespace JobScript

open ValueType

/-! ## Section 1: Sessions -/

inductive PopOperation where
  | authenticate
  | connect
  /-- Connect, saying whether the connection is to be secured -/
  | connectSecurely
  | delete
  | disconnect
  | failureReason
  | list
  | noop
  | retrieve
  | stat
  | top
  deriving DecidableEq, Repr

namespace PopOperation

def signature : PopOperation → Signature
  | .authenticate => .producing "authenticate" [text, text] boolean
  | .connect => .producing "connect" [text, int] boolean
  | .connectSecurely => .producing "connect" [text, int, boolean] boolean
  | .delete => .producing "delete" [int] boolean
  | .disconnect => .acting "disconnect" []
  | .failureReason => .producing "getfailurereason" [] text
  | .list => .producing "list" [] textList
  | .noop => .acting "noop" []
  | .retrieve => .producing "retrieve" [int] mailMessage
  | .stat => .producing "stat" [] int
  | .top => .producing "top" [int, int] textList

def catalog : List PopOperation :=
  [.authenticate, .connect, .connectSecurely, .delete, .disconnect, .failureReason, .list, .noop,
    .retrieve, .stat, .top]

end PopOperation

/-! ## Section 2: Messages -/

inductive MailOperation where
  | addBodyLine
  | addBodyLines
  | addCcRecipient
  | addHeaderLine
  | addToRecipient
  | assign
  | clear
  | clearBody
  | clearHeader
  | bodyLines
  | ccRecipients
  | header
  | headerLines
  | sender
  | subject
  | toRecipients
  | setSender
  | setSubject
  deriving DecidableEq, Repr

namespace MailOperation

def signature : MailOperation → Signature
  | .addBodyLine => .acting "addbodyline" [text]
  | .addBodyLines => .acting "addbodylines" [textList]
  | .addCcRecipient => .acting "addccrecipient" [text]
  | .addHeaderLine => .acting "addheaderline" [text]
  | .addToRecipient => .acting "addtorecipient" [text]
  | .assign => .acting "assign" [mailMessage]
  | .clear => .acting "clear" []
  | .clearBody => .acting "clearbody" []
  | .clearHeader => .acting "clearheader" []
  | .bodyLines => .producing "getbodylines" [] textList
  | .ccRecipients => .producing "getccrecipients" [] textList
  | .header => .producing "getheader" [text] text
  | .headerLines => .producing "getheaderlines" [] textList
  | .sender => .producing "getsender" [] text
  | .subject => .producing "getsubject" [] text
  | .toRecipients => .producing "gettorecipients" [] textList
  | .setSender => .acting "setsender" [text]
  | .setSubject => .acting "setsubject" [text]

def catalog : List MailOperation :=
  [.addBodyLine, .addBodyLines, .addCcRecipient, .addHeaderLine, .addToRecipient, .assign, .clear,
    .clearBody, .clearHeader, .bodyLines, .ccRecipients, .header, .headerLines, .sender, .subject,
    .toRecipients, .setSender, .setSubject]

end MailOperation

end JobScript
