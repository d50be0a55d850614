/-! Typed load errors with their data; the rendered texts are left out. -/

namespace Simetro.Sl1

inductive Sl1LoadError where
  | unsupportedSchema (found supported : Nat)
  | unknownField (field : String)
  | expectedObject (found : String)
  | parse (message : String)
  | primitiveNotImplemented (sectionName : String)
  | tooManyItems (sectionName : String) (count max : Nat)
  | placeDuplicateId (id : String)
  | placeInvalidId (id : String)
  | placeEmptyRole (id : String)
  | placeInvalidPos (id : String)
  | placeStorageInitialExceedsCapacity (id slot : String) (initial capacity : Nat)
  | placeStorageCapacityZero (id slot : String)
  | placeEmptyEntry (id field : String)
  | placeDuplicateEntry (id field value : String)
  | placeUnsupportedPredicate (id state predicate : String)
  | placePercentThresholdOutOfRange (id state : String) (threshold max : Nat)
  | placeEmptyOperatingStateName (id : String)
  | placeEmptyShape (id : String)
  | placePredicateUnknownMetric (id state metric : String)
  | linkDuplicateId (id : String)
  | linkInvalidId (id : String)
  | linkEmptyType (id : String)
  | linkUnknownPlace (id which place : String)
  | linkSelfLoop (id place : String)
  | linkMissingDirection (id : String)
  | linkUnknownDirection (id value : String)
  | linkMissingBackpressure (id : String)
  | linkUnknownBackpressure (id value : String)
  | linkEmptyEntry (id field : String)
  | linkDuplicateCompatibility (id value : String)
  | linkTravelTicksZero (id : String)
  | linkTravelTicksOutOfRange (id : String) (value max : Nat)
  | linkQueueCapacityZero (id : String)
  | linkQueueCapacityOutOfRange (id : String) (value max : Nat)
  | linkEmptyRenderStyle (id : String)
  | linkCompatibilityUnknownReference (id value : String)
  | thingDuplicateId (id : String)
  | thingInvalidId (id : String)
  | thingEmptyKind (id : String)
  | thingEmptyTag (id : String)
  | thingDuplicateTag (id value : String)
  | thingSchemaVersionZero (id : String)
  | thingFreshnessBudgetZero (id : String)
  | thingFreshnessBudgetOutOfRange (id : String) (value max : Nat)
  | thingQualityMaxDropPercentOutOfRange (id : String) (value : Float)
  | thingQualityMaxLateTicksZero (id : String)
  | thingQualityMaxLateTicksOutOfRange (id : String) (value max : Nat)
  | thingQualityRequiredFieldEmpty (id : String)
  | thingQualityRequiredFieldDuplicate (id value : String)
  | thingEmptyRenderGlyph (id : String)
  | placeStorageUnknownThing (placeId thingId : String)
  | placeUnknownThingReference (placeId field value : String)
  | transformInvalidId (id : String)
  | transformDuplicateId (id : String)
  | transformEmptyType (id : String)
  | transformUnknownPlace (id place : String)
  | transformEmptyOutputs (id : String)
  | transformUnknownThing (id field value : String)
  | transformDuplicateIo (id field value : String)
  | transformIoAmountZero (id field thing : String)
  | transformIoAmountOutOfRange (id field thing : String) (value max : Nat)
  | transformCadenceZero (id : String)
  | transformDurationZero (id : String)
  | transformDeadlineZero (id : String)
  | transformDeadlineLessThanDuration (id : String) (deadline duration : Nat)
  | transformTicksOutOfRange (id field : String) (value max : Nat)
  | transformCapacityCostEmptyKey (id : String)
  | transformCapacityCostZero (id key : String)
  | transformCapacityCostOutOfRange (id key : String) (value max : Nat)
  | transformUnknownCapacityKey (id key place : String)
  | transformInvalidFailurePolicy (id policy : String)
  | transformMaxAttemptsZero (id : String)
  | transformMaxAttemptsOutOfRange (id : String) (value max : Nat)
  | demandInvalidId (id : String)
  | demandDuplicateId (id : String)
  | demandEmptyType (id : String)
  | demandUnknownTargetKind (id kind : String)
  | demandTargetKindNotImplemented (id kind : String)
  | demandUnknownTarget (id target : String)
  | demandRequiresEmpty (id : String)
  | demandRequiresTooMany (id : String) (count max : Nat)
  | demandUnknownRequires (id value : String)
  | demandDuplicateRequires (id value : String)
  | demandScheduleNotImplemented (id kind : String)
  | demandUnknownScheduleType (id kind : String)
  | demandScheduleMissingField (id kind field : String)
  | demandScheduleFieldZero (id field : String)
  | demandScheduleFieldOutOfRange (id field : String) (value max : Nat)
  | demandScheduleScriptedEmpty (id : String)
  | demandScheduleScriptedNotIncreasing (id : String) (tick : Nat)
  | demandScheduleScriptedTooMany (id : String) (count max : Nat)
  | demandScheduleScriptedTickZero (id : String)
  | demandScheduleUnexpectedField (id kind field : String)
  | demandDeadlineZero (id : String)
  | demandDeadlineOutOfRange (id : String) (value max : Nat)
  | demandInvalidPriority (id priority : String)
  | demandValueOutOfRange (id : String) (value max : Nat)
  | demandPenaltyScorePositive (id : String) (score : Int)
  | demandPenaltyScoreOutOfRange (id : String) (abs max : Int)
  | demandPenaltyWarningEmpty (id : String)
  | pressureInvalidId (id : String)
  | pressureDuplicateId (id : String)
  | pressureUnknownType (id kind : String)
  | pressureMissingField (id kind field : String)
  | pressureUnexpectedField (id kind field : String)
  | pressureDurationZero (id : String)
  | pressureAtTickOutOfRange (id : String) (value max : Nat)
  | pressureDurationOutOfRange (id : String) (value max : Nat)
  | pressureEndOverflow (id : String) (atTick durationTicks max : Nat)
  | pressureUnknownTarget (id expected target : String)
  | pressureUnknownThing (id thing : String)
  | pressureNoStorageSlot (id place thing : String)
  | pressureUnknownCapacityBucket (id place capacity : String)
  | pressureMultiplierOutOfRange (id : String) (value : Float) (maxMilli : Nat)
  | pressureSpawnMultiplierOutOfRange (id : String) (value max : Nat)
  | pressureReductionPercentOutOfRange (id : String) (value max : Nat)
  | objectiveInvalidId (id : String)
  | objectiveDuplicateId (id : String)
  | objectiveUnknownType (id kind : String)
  | objectiveMissingField (id kind field : String)
  | objectiveUnexpectedField (id kind field : String)
  | objectiveWeightOutOfRange (id : String) (value max : Nat)
  | objectiveUnknownTarget (id expected target : String)
  | objectiveNoStorageSlot (id place thing : String)
  | objectiveValueOutOfRange (id field : String) (value max : Nat)
  | objectiveInvalidPercentRange (id : String) (min max : Nat)
  | objectiveUnknownCapacityBucket (id place capacity : String)
  | failureConditionInvalidId (id : String)
  | failureConditionDuplicateId (id : String)
  | failureConditionUnknownType (id kind : String)
  | failureConditionMissingField (id kind field : String)
  | failureConditionUnexpectedField (id kind field : String)
  | failureConditionThresholdOutOfRange (id : String) (value max : Nat)
  | failureConditionGraceOutOfRange (id : String) (value max : Nat)
  | failureConditionMaxCountOutOfRange (id : String) (value max : Nat)
  | failureConditionNoStorageSlot (id place thing : String)
  | failureConditionUnknownTarget (id expected target : String)
  | failureConditionUnknownPlaceState (id place state : String)
  | failureConditionPlaceStatePredicateUnsupported (id place state predicate : String)
  | failureConditionUnknownObjective (id objectiveId : String)
  | victoryConditionInvalidId (id : String)
  | victoryConditionDuplicateId (id : String)
  | victoryConditionUnknownType (id kind : String)
  | victoryConditionMissingField (id kind field : String)
  | victoryConditionUnexpectedField (id kind field : String)
  | victoryConditionAtTickOutOfRange (id : String) (value max : Nat)
  | observabilityTooManyItems (sectionName : String) (count max : Nat)
  | metricInvalidId (id : String)
  | metricDuplicateId (id : String)
  | metricUnsupportedSource (id sourceKind : String)
  | metricMissingField (id sourceKind field : String)
  | metricExtraField (id sourceKind field : String)
  | metricUnknownPlace (id place : String)
  | metricUnknownThing (id thing : String)
  | metricUnknownCapacityBucket (id place capacity : String)
  | metricNoStorageSlot (id place thing : String)
  | metricUnknownDashboard (id dashboard : String)
  | dashboardInvalidId (id : String)
  | dashboardDuplicateId (id : String)
  | dashboardUnsupportedKind (id kind : String)
  | dashboardInvalidDependsOn (id value : String)
  | dashboardUnknownThing (id thing : String)
  | dashboardFreshnessSloZero (id : String)
  | alertInvalidId (id : String)
  | alertDuplicateId (id : String)
  | alertUnknownMetric (id metric : String)
  | alertOutOfRangeInverted (id : String) (min max : Nat)
  | alertUnsupportedSeverity (id severity : String)
  | agentInvalidId (id : String)
  | agentDuplicateId (id : String)
  | agentUnknownKind (id kind : String)
  | agentRoleEmpty (id : String)
  | agentIntervalTicksZero (id : String)
  | agentIntervalTicksOutOfRange (id : String) (value max : Nat)
  | agentObservationScopeMalformed (id entry : String)
  | agentObservationScopeUnknownId (id kind target : String)
  | agentObservationScopeDuplicate (id entry : String)
  | agentAllowedActionsUnknownKind (id kind : String)
  | agentAllowedActionsDuplicate (id kind : String)
  | agentMaxCostPerDecisionZero (id : String)
  | agentCooldownTicksOutOfRange (id : String) (value max : Nat)
  | agentObjectiveWeightNonFinite (id objective : String)
  | agentObjectiveWeightOutOfRange (id objective : String) (value : Float)
  | agentObjectiveWeightUnknown (id objective : String)
  | agentTooManyEntries (id field : String) (count max : Nat)
  | milestoneInvalidId (id : String)
  | milestoneDuplicateId (id : String)
  | milestoneEmptyLabel (id : String)
  | milestoneEmptyCameraFocus (id : String)
  | milestoneEmptyCameraFocusEntry (id : String)
  | milestoneDuplicateCameraFocus (id entry : String)
  | milestoneEmptyHighlight (id : String)
  | milestoneUnknownCameraFocus (id entry : String)
  | milestoneUnknownHighlight (id target : String)
  | milestoneUnknownPressure (id pressure : String)
  | milestoneUnknownMetric (id metric : String)
  | milestoneUnknownPredicate (id predicate : String)
  | milestoneUnknownDashboard (id dashboard : String)
  | milestoneUnknownDashboardState (id state : String)

end Simetro.Sl1
