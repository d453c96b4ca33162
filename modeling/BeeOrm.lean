import BeeOrm.Foundation.GoMap
import BeeOrm.Foundation.GoStrings
import BeeOrm.Schema.Reflect
import BeeOrm.Schema.Registry
import BeeOrm.Schema.Tags
import BeeOrm.Schema.TableFields
import BeeOrm.Schema.ColumnNames
import BeeOrm.Schema.CachedQuery
import BeeOrm.Schema.Indexes
import BeeOrm.Schema.IndexValidation
import BeeOrm.Schema.Init
import BeeOrm.Schema.CachedIndexes
import BeeOrm.Schema.Recording
import BeeOrm.Schema.Layout
import BeeOrm.Schema.CacheKey
import BeeOrm.LazyFlush.Consumer
import BeeOrm.Metrics.SlowQueryTree
import BeeOrm.Metrics.LogHandler
import BeeOrm.Metrics.SlowLog
import BeeOrm.Metrics.QueryGroups
import BeeOrm.Sql.Condition
import BeeOrm.Schema.SoftDeleteFilter
import BeeOrm.Engine.Pools
import BeeOrm.Plugins.ForeignKeys
import BeeOrm.Schema.Placeholders
import BeeOrm.Schema.UniqueIndexes
import BeeOrm.Schema.FieldsQuery
import BeeOrm.Schema.Alignment
import BeeOrm.Schema.Enum
import BeeOrm.Schema.Usage
import BeeOrm.Schema.TagFormat
import BeeOrm.Engine.SchemaPools
import BeeOrm.Schema.Options
