import CodeGauge.Text.Basic

/-!
The messages of findings. A message is a fixed text, or a text with one place for a size.
-/
namespace CodeGauge

inductive MessageKey where
  | nPlusOneQuery
  | inefficientCollectionOps
  | listenerLeak
  | threadLeak
  | blockingMainThread
  | largeAllocation
  | largeArrayAllocation
  | boxingOverhead
  | sqlInjection
  | hardcodedCredentials
  | pathTraversal
  | insecureRandom
  | commandInjection
  | crossSiteScripting
deriving Repr, DecidableEq

inductive Template where
  | plain (text : Text)
  /-- A text with a size between two parts. -/
  | sized (before after : Text)
deriving Repr, DecidableEq

namespace Template

/-- The name by which a value for the size is given. -/
def sizeName : Text := "size"

/-- The text with the place for the size still open. -/
def unfilled : Template → Text
  | plain text => text
  | sized before after => before ++ ("\x7bsize\x7d" : Text) ++ after

/-- The text with a size in its place. -/
def withSize (size : Text) : Template → Text
  | plain text => text
  | sized before after => before ++ size ++ after

end Template

namespace MessageKey

def all : List MessageKey :=
  [nPlusOneQuery, inefficientCollectionOps, listenerLeak, threadLeak, blockingMainThread,
    largeAllocation, largeArrayAllocation, boxingOverhead, sqlInjection, hardcodedCredentials,
    pathTraversal, insecureRandom, commandInjection, crossSiteScripting]

def label : MessageKey → Text
  | nPlusOneQuery => "n_plus_one_query"
  | inefficientCollectionOps => "inefficient_collection_ops"
  | listenerLeak => "listener_leak"
  | threadLeak => "thread_leak"
  | blockingMainThread => "blocking_main_thread"
  | largeAllocation => "large_allocation"
  | largeArrayAllocation => "large_array_allocation"
  | boxingOverhead => "boxing_overhead"
  | sqlInjection => "sql_injection"
  | hardcodedCredentials => "hardcoded_credentials"
  | pathTraversal => "path_traversal"
  | insecureRandom => "insecure_random"
  | commandInjection => "command_injection"
  | crossSiteScripting => "xss"

/-- The message used where a language has no wording of its own. -/
def template : MessageKey → Template
  | nPlusOneQuery => .plain "N+1 Query detected - Use JOIN or batch loading"
  | inefficientCollectionOps =>
    .plain "Chained collection operations - Combine into a single pass"
  | listenerLeak => .plain "Memory leak risk - Listener not removed"
  | threadLeak => .plain "Thread leak - Thread not properly terminated"
  | blockingMainThread => .plain "Blocking operation on main thread - Move to background"
  | largeAllocation => .sized "Large allocation (" ") - Consider lazy initialization"
  | largeArrayAllocation => .sized "Large array allocation (" ") - Consider lazy initialization"
  | boxingOverhead => .plain "Boxing overhead - Use primitive arrays for performance"
  | sqlInjection => .plain "SQL Injection - Use parameterized queries"
  | hardcodedCredentials =>
    .plain "Hardcoded credential - Use environment variables or secure vault"
  | pathTraversal => .plain "Path Traversal - Validate and normalize file paths"
  | insecureRandom => .plain "Insecure Random - Use a cryptographically secure random source"
  | commandInjection => .plain "Command Injection - Validate and sanitize command parameters"
  | crossSiteScripting => .plain "XSS vulnerability - Escape HTML output"

end MessageKey

/-- Why a message cannot be made. -/
inductive MessageError where
  | unknownKey (key : Text)
  | missingValue (name : Text)
deriving Repr, DecidableEq

/-- The key or name that was looked for in vain. -/
def MessageError.missing : MessageError → Text
  | unknownKey key => key
  | missingValue name => name

end CodeGauge
