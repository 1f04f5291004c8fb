/-! What a dispatch reports about its progress. Reports go to the host, which may keep them or drop
them; they have no influence on the dispatch. -/
namespace PatternDispatch

inductive Event where
  | enteredCase (arms : Nat)
  | enteredTest
  | enteredAssert
  | armMissed (index : Nat)
  | guardRejected (index : Nat)
  | dispatchAborted (index : Nat) (code : String)
  | armMatched (index bound hookCalls cacheHits : Nat)
  | noArmMatched (hookCalls cacheHits : Nat)
  | externalAssigned
  | sequenceFromCache
  | mappingFromCache
  | windowMatched (start width : Nat)
  | noWindowMatched (len width : Nat)
  deriving DecidableEq

/-- How much attention an event wants. -/
inductive EventLevel where
  | debug
  | trace
  deriving DecidableEq

def EventLevel.name : EventLevel → String
  | .debug => "debug"
  | .trace => "trace"

/-- A detail of an event. -/
inductive EventField where
  | number (n : Nat)
  | text (s : String)

/-- An event as a listener sees it: the begin of a span of work, or a message with a level. -/
inductive EventReport where
  | span (name : String) (fields : List (String × EventField))
  | message (level : EventLevel) (text : String) (fields : List (String × EventField))

def Event.report : Event → EventReport
  | .enteredCase arms => .span "eval_case" [("arms", .number arms)]
  | .enteredTest => .span "eval_in" []
  | .enteredAssert => .span "eval_rightward" []
  | .armMissed i => .message .trace "arm did not match" [("index", .number i)]
  | .guardRejected i => .message .trace "guard rejected arm" [("index", .number i)]
  | .dispatchAborted i code =>
    .message .debug "dispatch aborted" [("index", .number i), ("code", .text code)]
  | .armMatched i bound hookCalls cacheHits =>
    .message .debug "arm matched"
      [("index", .number i), ("bound", .number bound), ("hook_calls", .number hookCalls),
        ("cache_hits", .number cacheHits)]
  | .noArmMatched hookCalls cacheHits =>
    .message .debug "no arm matched"
      [("hook_calls", .number hookCalls), ("cache_hits", .number cacheHits)]
  | .externalAssigned => .message .trace "assigning external binding" []
  | .sequenceFromCache => .message .trace "deconstruct served from cache" []
  | .mappingFromCache => .message .trace "deconstruct_keys served from cache" []
  | .windowMatched start width =>
    .message .trace "find pattern window matched" [("start", .number start), ("width", .number width)]
  | .noWindowMatched len width =>
    .message .trace "no find pattern window matched" [("len", .number len), ("width", .number width)]

end PatternDispatch
