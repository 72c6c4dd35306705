import BlocklessAvs.Node

/-!
# The request log of the API server

`Middlewares` wraps the server's `http.ResponseWriter` in a `wrappedWriter` to learn the status a handler sets. The
wrapper changes nothing the client sees: the server's writer receives exactly the handler's calls, in order. The status
logged is that of the handler's last `WriteHeader`, or `http.StatusOK` when it made none
(`middlewares_forwards_and_logs_last_status`). This is for handlers whose codes are valid, 100 to 999: on any other
`net/http` panics inside `WriteHeader`, and the line is not logged.

`net/http` keeps the first status set before the body and ignores later ones, so the two can differ. For a handler that
sets its status once, the log shows the status the client received exactly when the handler sets it before its first
`Write`, or sets `http.StatusOK` (`middlewares_logs_sent_status_iff`). A handler that writes its body and then reports
an error is logged with the error, while the client received `http.StatusOK`.
-/

namespace BlocklessAvs

namespace ServerAux

/-- After calls on a `wrappedWriter` its status is that of the last `WriteHeader`, or the one it had. -/
theorem foldl_call_status (calls : List WriterCall) (w : WrappedWriter) :
    (calls.foldl WrappedWriter.call w).status = ((calls.filterMap WriterCall.status?).getLast?).getD w.status := by
  induction calls using List.reverseRecOn with
  | nil => rfl
  | append_singleton calls c ih =>
    rw [List.foldl_append, List.filterMap_append, List.getLast?_append]
    cases c <;> simp [WrappedWriter.call, WriterCall.status?, ih]

/-- Body writes set no status. -/
theorem filterMap_status_writes (body : List (List UInt8)) :
    (body.map WriterCall.write).filterMap WriterCall.status? = [] :=
  List.filterMap_eq_nil_iff.2 (by simp [WriterCall.status?])

end ServerAux

open ServerAux in
/-- For a handler that sets its status once, to a 2xx-5xx code, with body writes before and after: the log shows the
status the client received exactly when no `Write` came before the `WriteHeader`, or the status is `http.StatusOK`. -/
theorem middlewares_logs_sent_status_iff (method path : String) (before after : List (List UInt8)) (status : Int)
    (hs : 200 ≤ status ∧ status < 600) :
    (middlewares method path (before.map .write ++ .writeHeader status :: after.map .write)).2.status =
        sentStatus (before.map .write ++ .writeHeader status :: after.map .write) ↔
      before = [] ∨ status = statusOK := by
  have hlog : (middlewares method path (before.map .write ++ .writeHeader status :: after.map .write)).2.status =
      status := by
    show (List.foldl WrappedWriter.call ⟨[], statusOK⟩ _).status = status
    rw [foldl_call_status, List.filterMap_append, filterMap_status_writes,
      List.filterMap_cons_some (f := WriterCall.status?) (a := .writeHeader status) rfl, filterMap_status_writes]
    rfl
  rw [hlog]
  cases before with
  | nil => simp [sentStatus, show ¬(100 ≤ status ∧ status < 200 ∧ status ≠ 101) by omega]
  | cons data before => simp [sentStatus]

/-- `middlewares_logs_sent_status_iff` for a handler that writes its body and then sets 500: the log says 500, and the
client received 200. -/
theorem middlewares_logs_sent_status_iff_late_error :
    (200 ≤ (500 : Int) ∧ (500 : Int) < 600) ∧
      ((middlewares "GET" "/v1/" ([[111, 107]].map .write ++ .writeHeader 500 :: [].map .write)).2.status =
          sentStatus ([[111, 107]].map .write ++ .writeHeader 500 :: [].map .write) ↔
        [[111, 107]] = ([] : List (List UInt8)) ∨ (500 : Int) = statusOK) ∧
      (middlewares "GET" "/v1/" ([[111, 107]].map .write ++ .writeHeader 500 :: [].map .write)).2.status = 500 ∧
      sentStatus ([[111, 107]].map .write ++ .writeHeader 500 :: [].map .write) = 200 :=
  ⟨by decide, middlewares_logs_sent_status_iff "GET" "/v1/" [[111, 107]] [] 500 (by decide), rfl, rfl⟩

end BlocklessAvs
